import CredRegistry.Proofs.Config.Load
import CredRegistry.Proofs.Json.RoundTrip

/-!
# Settings that are written and loaded again

Settings are written with all their fields, and what is not set is null there. Read as a value,
the text is `settled_toJson`, and the schema finds fault with nothing in it but the nulls
(`faults_toJson`). So settings that were loaded and are written can be loaded again just when both
the database file and the file of the key are set, and then they are the same but for the key,
which is never written.
-/

namespace CredRegistry.Settings

open CredRegistry.Json CredRegistry.Text

/-! ## What is written -/

theorem plain_ofString? (depth : Nat) (o : Option String) :
    Value.Plain depth (.ofString? o) := by
  cases o with
  | none => exact .null depth
  | some s => exact .str depth s

/-- Settings are written as sections in an object. -/
theorem plain_toJson (s : Settings) : Value.Plain 2 s.toJson := by
  refine .object ?_
  simp only [List.forall_mem_cons]
  refine ⟨.str .., .object ?_, .object ?_, .object ?_, .object ?_, plain_ofString? ..,
    plain_ofString? .., nofun⟩
  all_goals simp only [List.forall_mem_cons]
  · exact ⟨plain_ofString? .., nofun⟩
  · exact ⟨.str .., nofun⟩
  · exact ⟨.str .., .str .., nofun⟩
  · exact ⟨.str .., .bool .., nofun⟩

theorem settled_ofString? (o : Option String) :
    (Value.ofString? o).settled = .ofString? o := by
  cases o <;> rfl

/-- The fields come in the order of their names. -/
theorem settled_toJson (s : Settings) : s.toJson.settled = .object
    [("argocd", .object
      [("configMapName", .str s.argoCd.configMap), ("namespace", .str s.argoCd.space)]),
    ("cluster", .object [("name", .str s.cluster.name)]),
    ("database", .object [("path", .ofString? s.database.path)]),
    ("logging", .object [("json", .bool s.logging.json), ("level", .str s.logging.level)]),
    ("tokenKeyEnvVar", .ofString? s.tokenKeyVariable),
    ("tokenKeyFile", .ofString? s.tokenKeyFile),
    ("version", .str s.version)] := by
  simp only [toJson, Value.settled, Value.settledFields, settled_ofString?, Value.ofFields,
    Dict.ofList, Dict.insert, Dict.insertEntry, Dict.empty, List.foldl_cons, List.foldl_nil,
    String.reduceLT, String.reduceEq, if_true, if_false]

/-! ## What the schema makes of it -/

/-- A field that is not set is written as null, which is no string. -/
def nullFaults : Option String → List SchemaFault
  | none => [.wrongType .null "string"]
  | some _ => []

def unsetFaults (s : Settings) : List SchemaFault :=
  nullFaults s.database.path ++ nullFaults s.tokenKeyFile

theorem unsetFaults_eq_nil {s : Settings} :
    unsetFaults s = [] ↔ s.database.path.isSome ∧ s.tokenKeyFile.isSome := by
  unfold unsetFaults
  cases s.database.path <;> cases s.tokenKeyFile <;> simp [nullFaults]

theorem faults_ofString? {least : Nat} {o : Option String} (h : ∀ s ∈ o, least ≤ s.length) :
    (Schema.string none least).faults (.ofString? o) = nullFaults o := by
  cases o with
  | none => rfl
  | some s => exact Schema.faults_string_eq_nil.mpr ⟨s, rfl, h s rfl, nofun⟩

/-- What holds of settings that were loaded on a host. -/
structure Sound (h : Host) (s : Settings) : Prop where
  version : s.version = "1.0"
  path : ∀ path ∈ s.database.path, path ≠ ""
  cluster : s.cluster.name = (override? h clusterVariable).getD s.cluster.name
  space : s.argoCd.space = (override? h spaceVariable).getD s.argoCd.space
  configMap : s.argoCd.configMap = (override? h configMapVariable).getD s.argoCd.configMap
  noneBlank : NoneBlank s
  level : s.logging.level ∈ levelNames
  tokenKeyVariable : s.tokenKeyVariable.isSome

variable {h : Host} {s : Settings}

theorem one_le_length {text : String} (hne : text ≠ "") : 1 ≤ text.length :=
  Nat.one_le_iff_ne_zero.mpr fun hzero => hne (String.length_eq_zero_iff.mp hzero)

theorem faults_someText_of_not_blank {text : String} (hblank : isBlankText text = false) :
    someText.faults (.str text) = [] := by
  have hne : text ≠ "" := by
    rintro rfl
    cases hblank
  exact Schema.faults_string_eq_nil.mpr ⟨text, rfl, one_le_length hne, nofun⟩

/-- The schema finds fault with the nulls. -/
theorem faults_toJson (hs : Sound h s) : schema.faults s.toJson.settled = unsetFaults s := by
  obtain ⟨hcluster, hspace, hconfigMap⟩ := hs.noneBlank
  have hversion : (Schema.string (some [formatVersion]) 0).faults (.str s.version) = [] := by
    rw [hs.version]
    rfl
  have hlevel : (Schema.string (some levelNames) 0).faults (.str s.logging.level) = [] := by
    refine Schema.faults_string_eq_nil.mpr ⟨_, rfl, Nat.zero_le _, ?_⟩
    rintro _ ⟨⟩
    exact hs.level
  have hpath : someText.faults (.ofString? s.database.path) = nullFaults s.database.path :=
    faults_ofString? fun path hpath => one_le_length (hs.path path hpath)
  have hfile : anyText.faults (.ofString? s.tokenKeyFile) = nullFaults s.tokenKeyFile :=
    faults_ofString? fun _ _ => Nat.zero_le _
  have hvariable : anyText.faults (.ofString? s.tokenKeyVariable) = [] := by
    obtain ⟨name, hname⟩ := Option.isSome_iff_exists.mp hs.tokenKeyVariable
    rw [hname]
    rfl
  have hclusterName := faults_someText_of_not_blank hcluster
  have hspaceName := faults_someText_of_not_blank hspace
  have hconfigMapName := faults_someText_of_not_blank hconfigMap
  have hjson : Schema.boolean.faults (.bool s.logging.json) = [] := rfl
  rw [settled_toJson, schema, Schema.faults_object]
  simp [Schema.fieldFaults, Schema.faults_object, Schema.unexpectedFaults, Schema.missingFaults,
    lookup_cons, lookup_nil, hversion, hlevel, hpath, hfile, hvariable, hclusterName, hspaceName,
    hconfigMapName, hjson, unsetFaults]

/-! ## What was loaded -/

theorem path_ne_empty {v : Value} (hv : InFormat v) :
    ∀ path ∈ text? (within? v.field? "database" "path"), path ≠ "" := by
  intro path hpath
  cases hx : within? v.field? "database" "path" with
  | none =>
      rw [hx] at hpath
      cases hpath
  | some x =>
      have hsection : ∀ check, ("database", check) ∈ checks →
          check = Value.HasOnly [("path", IsName)] := by simp [checks]
      obtain ⟨check, hmem, hcheck⟩ := hv.within hsection hx
      have hname : check = IsName := by simpa using hmem
      rw [hname] at hcheck
      obtain ⟨name, rfl, hne⟩ := hcheck
      rw [hx] at hpath
      cases hpath
      exact hne

/-- The name in force would be put in force again. -/
theorem eq_of_inForce {name : String} {given : Option String} {default chosen : String}
    (hforce : InForce h name given default chosen) : chosen = (override? h name).getD chosen := by
  have heq := inForce_iff.mp hforce
  cases hoverride : override? h name with
  | none => rfl
  | some o =>
      rw [hoverride, Option.getD_some] at heq
      exact heq

theorem sound_of_effective {text : String} (heq : effective h text = .ok s) : Sound h s := by
  obtain ⟨v, -, hv, hs, hblank⟩ := effective_eq_ok.mp heq
  refine ⟨hs.version, ?_, eq_of_inForce hs.cluster, eq_of_inForce hs.space,
    eq_of_inForce hs.configMap, hblank, ?_, ?_⟩
  · rw [hs.path]
    exact path_ne_empty hv
  · rw [hs.level]
    exact level_mem hv
  · rw [hs.tokenKeyVariable]
    rfl

/-! ## Loading what was written -/

theorem text?_ofString? (o : Option String) : text? (some (.ofString? o)) = o := by
  cases o <;> rfl

theorem loaded_toJson (hs : Sound h s) :
    Loaded h s.toJson.settled { s with tokenKey := none } := by
  have hforce {name chosen default : String} (heq : chosen = (override? h name).getD chosen) :
      InForce h name (some chosen) default chosen := inForce_iff.mpr heq
  obtain ⟨name, hname⟩ := Option.isSome_iff_exists.mp hs.tokenKeyVariable
  rw [settled_toJson]
  refine ⟨hs.version, ?_, hforce hs.cluster, hforce hs.space, hforce hs.configMap, rfl, rfl, rfl,
    ?_, ?_⟩
  · exact (text?_ofString? _).symm
  · exact (text?_ofString? _).symm
  · show s.tokenKeyVariable = some ((text? (some (.ofString? s.tokenKeyVariable))).getD _)
    rw [text?_ofString?, hname, Option.getD_some]

theorem effective_toJson (hs : Sound h s) :
    effective h s.toJson.text = match unsetFaults s with
      | [] => .ok { s with tokenKey := none }
      | faults => .error (.misfit faults) := by
  have htext : Value.ofText s.toJson.text = .ok s.toJson.settled :=
    Value.ofText_text (plain_toJson s) (by decide)
  cases hfaults : unsetFaults s with
  | nil =>
      have hformat : InFormat s.toJson.settled :=
        faults_schema_eq_nil.mp ((faults_toJson hs).trans hfaults)
      have hloaded := loaded_toJson hs
      rw [effective_of_inFormat htext hformat hloaded]
      exact checked_of_noneBlank hformat hloaded hs.noneBlank
  | cons fault faults =>
      have hmisfit : ¬ InFormat s.toJson.settled := by
        rw [← faults_schema_eq_nil, faults_toJson hs, hfaults]
        exact List.cons_ne_nil fault faults
      rw [effective_of_misfit htext hmisfit, faults_toJson hs, hfaults]

/-- Settings that were loaded and written are loaded again, all but the key, if a database file
and a file of the key are set. If one of them is not, the schema refuses the null that is written
in its place. -/
theorem written_and_loaded (h : Host) {text : String} {s : Settings}
    (hloaded : effective h text = .ok s) :
    (s.database.path.isSome ∧ s.tokenKeyFile.isSome →
      effective h s.toJson.text = .ok { s with tokenKey := none }) ∧
      (¬ (s.database.path.isSome ∧ s.tokenKeyFile.isSome) →
        unsetFaults s ≠ [] ∧ effective h s.toJson.text = .error (.misfit (unsetFaults s))) ∧
      ∀ (m : Type → Type) [Monad m] [LawfulMonad m] [Log.MonadLog m] (given : String), ∃ notes,
        (load h given : m _) = reportOverrides notes >>= fun _ => pure (effective h given) := by
  have heq := effective_toJson (sound_of_effective hloaded)
  refine ⟨fun hset => ?_, fun hunset => ?_, fun m _ _ _ given => load_eq h given⟩
  · rw [heq, unsetFaults_eq_nil.mpr hset]
  · have hfaults : unsetFaults s ≠ [] := mt unsetFaults_eq_nil.mp hunset
    refine ⟨hfaults, ?_⟩
    rw [heq]
    split
    next hnil => exact absurd hnil hfaults
    next => rfl

/-- A host without variables and files. -/
def bareHost : Host := ⟨[], {}, none⟩

theorem effective_of_settled {v : Value} {n : Nat} (hplain : Value.Plain n v)
    (hn : n < Reader.depthLimit) (hsettled : v.settled = v) (hv : schema.faults v = [])
    (hs : Loaded h v s) (hblank : NoneBlank s) : effective h v.text = .ok s := by
  have htext := Value.ofText_text hplain hn
  rw [hsettled] at htext
  exact effective_eq_ok.mpr ⟨v, htext, faults_schema_eq_nil.mp hv, hs, hblank⟩

/-- A text with both files, and a key. -/
def longText : Value := .object
  [("database", .object [("path", .str "/db")]), ("tokenKey", .str "k"),
    ("tokenKeyFile", .str "/key"), ("version", .str "1.0")]

def longSettings : Settings :=
  { standard with database := ⟨some "/db"⟩, tokenKey := some "k", tokenKeyFile := some "/key" }

theorem effective_longText : effective bareHost longText.text = .ok longSettings := by
  have hplain : Value.Plain 2 longText := by
    refine .object ?_
    simp only [List.forall_mem_cons]
    refine ⟨.object ?_, .str .., .str .., .str .., nofun⟩
    simp only [List.forall_mem_cons]
    exact ⟨.str .., nofun⟩
  have hsettled : longText.settled = longText := by
    simp only [longText, Value.settled, Value.settledFields, Value.ofFields, Dict.ofList,
      Dict.insert, Dict.insertEntry, Dict.empty, List.foldl_cons, List.foldl_nil, String.reduceLT,
      String.reduceEq, if_false]
  have hloaded : Loaded bareHost longText longSettings :=
    ⟨rfl, rfl, inForce_iff.mpr rfl, inForce_iff.mpr rfl, inForce_iff.mpr rfl, rfl, rfl, rfl, rfl,
      rfl⟩
  exact effective_of_settled hplain (by decide) hsettled rfl hloaded ⟨rfl, rfl, rfl⟩

/-- With both files set, all comes back but the key. -/
theorem longSettings_loaded_again :
    effective bareHost longText.text = .ok longSettings ∧
      effective bareHost longSettings.toJson.text = .ok { longSettings with tokenKey := none } :=
  ⟨effective_longText, (written_and_loaded bareHost effective_longText).1 ⟨rfl, rfl⟩⟩

/-- The text that says no more than it has to. -/
def shortText : Value := .object [("version", .str "1.0")]

theorem effective_shortText : effective bareHost shortText.text = .ok standard := by
  have hplain : Value.Plain 1 shortText := by
    refine .object ?_
    simp only [List.forall_mem_cons]
    exact ⟨.str .., nofun⟩
  have hloaded : Loaded bareHost shortText standard :=
    ⟨rfl, rfl, inForce_iff.mpr rfl, inForce_iff.mpr rfl, inForce_iff.mpr rfl, rfl, rfl, rfl, rfl,
      rfl⟩
  exact effective_of_settled hplain (by decide) rfl rfl hloaded ⟨rfl, rfl, rfl⟩

/-- The defaults are loaded from a short text, and what is written of them is refused for the
two files that are not set. -/
theorem standard_not_loaded_again :
    shortText.text = "\x7b\"version\":\"1.0\"\x7d" ∧
      effective bareHost shortText.text = .ok standard ∧
      effective bareHost standard.toJson.text
        = .error (.misfit [.wrongType .null "string", .wrongType .null "string"]) :=
  ⟨rfl, effective_shortText, effective_toJson (sound_of_effective effective_shortText)⟩

end CredRegistry.Settings
