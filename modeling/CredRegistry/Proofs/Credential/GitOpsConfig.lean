import CredRegistry.Credential.GitOpsConfig
import CredRegistry.Proofs.Json.Source

/-!
# What a configuration keeps in JSON

The fields of a configuration are written in the order in which `GitOpsConfig.fields` has them, and
each is taken in as it was written (`exists_takes`). User name and token are not written, so they
are empty in what is read.
-/

namespace CredRegistry.GitOpsConfig

open CredRegistry.Json CredRegistry.Json.Reader CredRegistry.Json.TextSource

/-- The configuration without what is never written out. -/
def readBack (c : GitOpsConfig) : GitOpsConfig := { c with username := "", token := "" }

variable {rest : List Char}

/-! ## Values -/

theorem gives_id {n : Int} (hn : -0x8000000000000000 ≤ n ∧ n < 0x8000000000000000)
    (h : Follows rest) :
    Gives (TextSource.optional
      (TextSource.integer (-0x8000000000000000) 0x7FFFFFFFFFFFFFFF "i64"))
      ((Value.int n).chars ++ rest) (some n) rest := by
  have hread := gives_integer "i64" hn.1 (Int.le_sub_one_of_lt hn.2)
    ⟨hn.1, Int.lt_trans hn.2 (by decide)⟩ h
  obtain ⟨c, cs, hchars, hspace, hstart⟩ := toString_eq_cons n
  rw [hchars] at hread
  rw [Value.chars, hchars]
  refine gives_optional hspace ?_ hread
  rintro rfl
  cases hstart

theorem gives_provider (p : Provider) (rest : List Char) :
    Gives (Provider.ofSource textSource) (p.toJson.chars ++ rest) p rest := by
  have hname : p.name ∈ Provider.all.map Provider.name := by
    cases p <;> decide
  refine (gives_variant hname rest).bind ?_
  rw [Provider.ofName?_name]
  exact gives_pure p rest

theorem gives_provider? (p? : Option Provider) (rest : List Char) :
    Gives (TextSource.optional (Provider.ofSource textSource))
      ((p?.elim Value.null Provider.toJson).chars ++ rest) p? rest := by
  cases p? with
  | none => exact gives_optional_null _ rest
  | some p => exact gives_optional rfl (by decide) (gives_provider p rest)

/-! ## Fields -/

/-- The fields that are always written. -/
def alwaysWritten (c : GitOpsConfig) : List (String × Value) :=
  [("provider", c.provider.elim .null Provider.toJson), ("gitLabGroupId", .str c.gitLabGroupId),
    ("gitHubOrgId", .str c.gitHubOrgId), ("host", .str c.host), ("active", .bool c.active)]

theorem toJson_of_id {c : GitOpsConfig} {n : Int} (hid : c.id = some n) :
    c.toJson = .object (("id", .int n) :: c.alwaysWritten) := by
  simp only [toJson, alwaysWritten, hid]
  cases c.provider <;> rfl

theorem toJson_of_none {c : GitOpsConfig} (hid : c.id = none) :
    c.toJson = .object c.alwaysWritten := by
  simp only [toJson, alwaysWritten, hid]
  cases c.provider <;> rfl

theorem takes_alwaysWritten (c : GitOpsConfig) {seen : List String}
    (hseen : seen = [] ∨ seen = ["id"]) :
    ∃ seen', Takes (fields textSource) seen { empty with id := c.id } c.alwaysWritten seen'
      c.readBack := by
  refine ⟨_, .cons rfl ?_ (fun _ _ => (gives_provider? c.provider _).bind (gives_pure _ _)) <|
    .cons rfl ?_ (fun _ _ => (TextSource.gives_string _ c.gitLabGroupId _).bind
      (gives_pure _ _)) <|
    .cons rfl ?_ (fun _ _ => (TextSource.gives_string _ c.gitHubOrgId _).bind (gives_pure _ _)) <|
    .cons rfl ?_ (fun _ _ => (TextSource.gives_string _ c.host _).bind (gives_pure _ _)) <|
    .cons rfl ?_ (fun _ _ => (gives_boolean c.active _).bind (gives_pure _ _)) .nil⟩
  all_goals rcases hseen with rfl | rfl <;> rfl

theorem exists_takes (c : GitOpsConfig)
    (hid : ∀ n ∈ c.id, -0x8000000000000000 ≤ n ∧ n < 0x8000000000000000) :
    ∃ written seen, c.toJson = .object written ∧
      Takes (fields textSource) [] empty written seen c.readBack := by
  cases hsome : c.id with
  | none =>
      obtain ⟨seen, htakes⟩ := c.takes_alwaysWritten (.inl rfl)
      rw [hsome] at htakes
      exact ⟨c.alwaysWritten, seen, toJson_of_none hsome, htakes⟩
  | some n =>
      obtain ⟨seen, htakes⟩ := c.takes_alwaysWritten (.inr rfl)
      rw [hsome] at htakes
      exact ⟨_, seen, toJson_of_id hsome,
        .cons rfl rfl (fun _ h => (gives_id (hid n hsome) h).bind (gives_pure _ _)) htakes⟩

/-! ## What is written is read -/

theorem gives_ofSource {c : GitOpsConfig} {written : List (String × Value)} {seen : List String}
    (htakes : Takes (fields textSource) [] empty written seen c) (rest : List Char) :
    Gives (ofSource textSource) ((Value.object written).chars ++ rest) c rest := by
  rw [ofSource, textSource_record]
  exact gives_record htakes (fun cs => gives_pure c cs) rest

/-- A configuration is read back from its JSON text without its user name and token, and these
make no difference to the text. -/
theorem ofText_toJson (c : GitOpsConfig)
    (hid : ∀ n ∈ c.id, -0x8000000000000000 ≤ n ∧ n < 0x8000000000000000) :
    ofText c.toJson.text = .ok { c with username := "", token := "" } ∧
      ∀ username token, { c with username, token }.toJson.text = c.toJson.text := by
  refine ⟨?_, fun username token => rfl⟩
  obtain ⟨written, seen, hwritten, htakes⟩ := c.exists_takes hid
  have hgives := gives_ofSource htakes []
  rw [List.append_nil] at hgives
  refine read_eq_ok_iff.mpr ⟨[], ?_, rfl⟩
  rw [Value.text, String.toList_ofList, hwritten]
  exact hgives

/-- The lowest id, and strings with quotes, controls and a character of four bytes. -/
def intricate : GitOpsConfig :=
  ⟨some (-0x8000000000000000), some .gitlab, "user", "token", "a\"b\\", "\x00\n\x1f", "é😀", true⟩

theorem ofText_toJson_intricate :
    intricate.toJson.text
      = "\x7b\"id\":-9223372036854775808,\"provider\":\"GITLAB\"," ++
        "\"gitLabGroupId\":\"a\\\"b\\\\\",\"gitHubOrgId\":\"\\u0000\\n\\u001f\"," ++
        "\"host\":\"é😀\",\"active\":true\x7d" ∧
      (∀ n ∈ intricate.id, -0x8000000000000000 ≤ n ∧ n < 0x8000000000000000) ∧
      ofText intricate.toJson.text = .ok { intricate with username := "", token := "" } ∧
      ∀ username token, { intricate with username, token }.toJson.text = intricate.toJson.text := by
  have hid : ∀ n ∈ intricate.id, -0x8000000000000000 ≤ n ∧ n < 0x8000000000000000 := by
    intro n hn
    cases hn
    decide
  exact ⟨by decide +kernel, hid, ofText_toJson intricate hid⟩

end CredRegistry.GitOpsConfig
