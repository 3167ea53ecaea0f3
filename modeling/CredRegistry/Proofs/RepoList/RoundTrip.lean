import CredRegistry.Proofs.RepoList.Decoding
import CredRegistry.RepoList.Merge

/-!
# The list survives being written and read again

What was read and then merged into any number of times is still proper
(`proper_mergeAll`): merging touches the managed fields only. So the extra fields alone
decide whether the list can be written, and they are those of the list that was read
(`nestsSingle_mergeAll`). Where it can, the text is read as the very same list.

That the text of a value holds that value is asked of the YAML writer and reader
(`ReadsBack`), for the one value that is written.
-/

namespace CredRegistry.RepoList

open CredRegistry.Yaml

/-- Merge credentials into a list, one after the other. -/
def mergeAll (entries : List Entry) (merges : List (Credential × String)) : List Entry :=
  merges.foldl (fun entries m => (merge entries m.1 m.2).1) entries

/-! ## What merging keeps -/

theorem proper_repoint {ref : Option SecretKeyRef} {name key : String}
    (h : ∀ r ∈ ref, r.Proper) : ∀ r ∈ repoint ref name key, r.Proper := by
  cases ref with
  | none =>
      rintro r ⟨rfl⟩
      exact SecretKeyRef.proper_to name key
  | some s =>
      rintro r ⟨rfl⟩
      exact h s rfl

theorem Entry.Proper.repoint {e : Entry} (h : e.Proper) (secret : String) :
    (e.repoint secret).Proper :=
  ⟨proper_repoint h.username, proper_repoint h.password, h.extra⟩

theorem Entry.proper_ofCredential (c : Credential) : (Entry.ofCredential c).Proper where
  username := by
    rintro r ⟨rfl⟩
    exact SecretKeyRef.proper_to c.username usernameKey
  password := by
    rintro r ⟨rfl⟩
    exact SecretKeyRef.proper_to c.token passwordKey
  extra := Carried.nil entryNames

/-- A list that has been read stays proper when a credential gets an entry at its end. -/
theorem proper_snoc {es : List Entry} {text : String} (hes : decode text = .ok es)
    (c : Credential) : ∀ e ∈ es ++ [.ofCredential c], e.Proper := by
  intro e he
  rcases List.mem_append.mp he with he | he
  · exact proper_of_decode hes e he
  · rw [List.mem_singleton.mp he]
    exact Entry.proper_ofCredential c

theorem any_repoint (ref : Option SecretKeyRef) (name key : String) :
    ((repoint ref name key).any fun r => nestSingle r.extra)
      = ref.any fun r => nestSingle r.extra := by
  cases ref <;> rfl

theorem Entry.nestsSingle_repoint (e : Entry) (secret : String) :
    (e.repoint secret).nestsSingle = e.nestsSingle := by
  simp only [Entry.nestsSingle, Entry.repoint, any_repoint]

theorem Entry.nestsSingle_ofCredential (c : Credential) :
    (Entry.ofCredential c).nestsSingle = false := rfl

/-- An entry after a merge is one from before it, as it was or repointed, or the new one. -/
theorem mem_merge {es : List Entry} {c : Credential} {secret : String} {e : Entry}
    (h : e ∈ (merge es c secret).1) :
    e ∈ es ∨ (∃ o ∈ es, e = o.repoint secret) ∨ e = .ofCredential c := by
  unfold merge at h
  split at h
  next i hi =>
    obtain ⟨j, hj, hje⟩ := List.mem_iff_getElem.mp h
    rw [List.getElem_modify] at hje
    split at hje
    · exact .inr (.inl ⟨_, List.getElem_mem _, hje.symm⟩)
    · exact .inl (hje ▸ List.getElem_mem _)
  next =>
    rcases List.mem_append.mp h with h | h
    · exact .inl h
    · exact .inr (.inr (List.mem_singleton.mp h))

theorem proper_merge {es : List Entry} {c : Credential} {secret : String}
    (h : ∀ e ∈ es, e.Proper) : ∀ e ∈ (merge es c secret).1, e.Proper := by
  intro e he
  rcases mem_merge he with he | ⟨o, ho, rfl⟩ | rfl
  · exact h e he
  · exact (h o ho).repoint secret
  · exact Entry.proper_ofCredential c

theorem proper_mergeAll {merges : List (Credential × String)} :
    ∀ {es : List Entry}, (∀ e ∈ es, e.Proper) → ∀ e ∈ mergeAll es merges, e.Proper := by
  induction merges with
  | nil => exact id
  | cons m merges ih => exact fun h => ih (proper_merge h)

/-- The fault of writing a list can come from extra fields alone, and merging leaves those
as they are. -/
theorem any_nestsSingle_merge (es : List Entry) (c : Credential) (secret : String) :
    (merge es c secret).1.any Entry.nestsSingle = es.any Entry.nestsSingle := by
  unfold merge
  split
  next i hi =>
    clear hi
    induction es generalizing i with
    | nil => cases i <;> rfl
    | cons e es ih =>
        cases i with
        | zero => simp [List.modify_zero_cons, Entry.nestsSingle_repoint]
        | succ i => simp [List.modify_succ_cons, ih]
  next => simp [Entry.nestsSingle_ofCredential]

theorem any_nestsSingle_mergeAll (merges : List (Credential × String)) :
    ∀ (es : List Entry),
      (mergeAll es merges).any Entry.nestsSingle = es.any Entry.nestsSingle := by
  induction merges with
  | nil => exact fun es => rfl
  | cons m merges ih => exact fun es => (ih _).trans (any_nestsSingle_merge es m.1 m.2)

/-! ## Writing and reading a list -/

theorem itemsNestSingle_toValue (es : List Entry) :
    Value.itemsNestSingle (es.map Entry.toValue) = es.any Entry.nestsSingle := by
  induction es with
  | nil => rfl
  | cons e es ih => simp [Value.itemsNestSingle, Entry.nestsSingle_toValue, ih]

/-- A proper list is written unless it nests single entries. -/
theorem encode_of_proper {es : List Entry} (h : ∀ e ∈ es, e.Proper) :
    encode es = if es.any Entry.nestsSingle then .error (.malformed .unexpectedToken)
      else .ok ((writeValue ⟨none, false, false⟩ .start (listValue es)).indentTo 0).text := by
  have huntagged : (listValue es).isUntagged = true := by
    refine Value.itemsUntagged_iff.mpr fun v hv => ?_
    obtain ⟨e, he, rfl⟩ := List.mem_map.mp hv
    exact Entry.isUntagged_toValue (h e he)
  have hnests : (listValue es).nestsSingle = es.any Entry.nestsSingle :=
    itemsNestSingle_toValue es
  rw [← hnests]
  exact write_of_untagged huntagged

/-- The text of a proper list is read as that list. -/
theorem decode_of_encode {es : List Entry} {text : String} (hes : ∀ e ∈ es, e.Proper)
    (hyaml : ReadsBack (listValue es)) (h : encode es = .ok text) : decode text = .ok es := by
  have hblank : Text.isBlankText text = false := not_blank_of_write_seq h
  obtain ⟨⟨j, hvalue⟩, hfault, hfollowed⟩ := Document.whole_ok.mp (hyaml text h)
  unfold decode
  rw [hblank]
  refine Document.whole_ok.mpr ⟨⟨j, ?_⟩, hfault, hfollowed⟩
  exact readEntries_of_value hes hvalue

/-- No name that this library manages stands among the extra fields of the entry or of its
references. -/
structure Entry.Unshadowed (e : Entry) : Prop where
  extra : ∀ name ∈ entryNames, e.extra.get? name = none
  username : ∀ r ∈ e.usernameSecret, ∀ name ∈ refNames, r.extra.get? name = none
  password : ∀ r ∈ e.passwordSecret, ∀ name ∈ refNames, r.extra.get? name = none

theorem get?_of_carried {names : List String} {extra : Dict Value}
    (h : Carried names extra.entries) : ∀ name ∈ names, extra.get? name = none := by
  intro name hname
  refine Dict.lookup_eq_none fun f hf heq => ?_
  exact (h f hf).1 (heq ▸ hname)

theorem Entry.Proper.unshadowed {e : Entry} (h : e.Proper) : e.Unshadowed where
  extra := get?_of_carried h.extra
  username := fun r hr => get?_of_carried (h.username r hr)
  password := fun r hr => get?_of_carried (h.password r hr)

/-- Of a list that was read and merged into, no entry has a managed name among its extra
fields. It is written exactly when the list that was read nests no single entries, and its
text is then read as that list. -/
theorem decode_encode_mergeAll {text : String} {es : List Entry} (h : decode text = .ok es)
    (merges : List (Credential × String)) (hyaml : ReadsBack (listValue (mergeAll es merges))) :
    (∀ e ∈ mergeAll es merges, e.Unshadowed) ∧
      ((∃ e ∈ es, e.nestsSingle = true) →
        encode (mergeAll es merges) = .error (.malformed .unexpectedToken)) ∧
      ((∀ e ∈ es, e.nestsSingle = false) →
        ∃ t, encode (mergeAll es merges) = .ok t ∧ decode t = .ok (mergeAll es merges)) := by
  have hproper : ∀ e ∈ mergeAll es merges, e.Proper := proper_mergeAll (proper_of_decode h)
  have hencode := encode_of_proper hproper
  rw [any_nestsSingle_mergeAll] at hencode
  refine ⟨fun e he => (hproper e he).unshadowed, fun hnests => ?_, fun hnone => ?_⟩
  · rw [hencode, if_pos (List.any_eq_true.mpr hnests)]
  · have hany : es.any Entry.nestsSingle = false := by
      rw [List.any_eq_false]
      intro e he
      rw [hnone e he]
      exact Bool.false_ne_true
    rw [hany, if_neg Bool.false_ne_true] at hencode
    exact ⟨_, hencode, decode_of_encode hproper hyaml hencode⟩

/-- An entry whose only reference has no name, with an extra field. -/
def keyOnly : Entry :=
  { url := "h"
    usernameSecret := some (.to "" "username")
    passwordSecret := none
    extra := (∅ : Dict Value).insert "x" (.int 7) }

/-- A credential whose texts look like a truth value and a number. -/
def guest : Credential :=
  { id := 0
    provider := .github
    username := "true"
    token := "1e3"
    orgOrGroupId := ""
    host := "n"
    active := true
    audit := .created 1 ⟨0, 0, 0⟩ }

/-- A list of one entry, whose reference has no name, and what is merged into it: a new host,
then that of the entry. -/
theorem decode_encode_guest :
    ∃ t, encode (mergeAll [keyOnly] [(guest, "s"), ({ guest with host := "h" }, "")]) = .ok t
      ∧ decode t = .ok (mergeAll [keyOnly] [(guest, "s"), ({ guest with host := "h" }, "")]) :=
  have hread : decode "- url: h\n  usernameSecret:\n    key: username\n  x: 7\n"
      = .ok [keyOnly] := by decide +kernel
  have hlist := decode_encode_mergeAll hread [(guest, "s"), ({ guest with host := "h" }, "")]
    (by decide +kernel)
  hlist.2.2 (by decide)

/-- An entry with an extra field that nests single entries. -/
def singleKey : Entry :=
  { url := "x"
    usernameSecret := none
    passwordSecret := none
    extra := (∅ : Dict Value).insert "k" (.map [(.map [(.str "a", .int 1)], .int 2)]) }

/-- Not every list that can be read can be written. -/
theorem encode_of_single_key :
    decode "- url: x\n  k:\n    ? a: 1\n    : 2\n" = .ok [singleKey]
      ∧ encode (mergeAll [singleKey] []) = .error (.malformed .unexpectedToken) := by
  decide +kernel

end CredRegistry.RepoList
