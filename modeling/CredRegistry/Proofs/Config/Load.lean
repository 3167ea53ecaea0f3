import CredRegistry.Config.Load
import CredRegistry.Proofs.Host.Environment
import CredRegistry.Proofs.Json.Schema

/-!
# What loading settings accepts

The format is said once, as a predicate on values (`InFormat`), and both that the schema checks and
the record that is read are compared with it: the schema finds no fault with just these values
(`faults_schema_eq_nil`), and all of them can be read (`ofValue_eq`), to what can be told from the
look-ups in them (`ofLookups`). What is left are the names that variables override (`InForce`) and
that must not be blank. Every text is loaded or fails for one reason (`effective_cases`).
-/

namespace CredRegistry.Settings

open CredRegistry.Json CredRegistry.Text

/-! ## The format -/

def IsText (v : Value) : Prop := ∃ s, v = .str s

/-- A string that is not empty. It can be blank. -/
def IsName (v : Value) : Prop := ∃ s, v = .str s ∧ s ≠ ""

def IsLevel (v : Value) : Prop := ∃ s ∈ ["trace", "debug", "info", "warn", "error"], v = .str s

def IsFlag (v : Value) : Prop := ∃ b, v = .bool b

/-- The fields that settings can have, and the values that these can have. -/
def checks : List (String × (Value → Prop)) :=
  [("version", (· = .str "1.0")),
    ("database", Value.HasOnly [("path", IsName)]),
    ("cluster", Value.HasOnly [("name", IsName)]),
    ("argocd", Value.HasOnly [("namespace", IsName), ("configMapName", IsName)]),
    ("logging", Value.HasOnly [("level", IsLevel), ("json", IsFlag)]),
    ("tokenKey", IsText), ("tokenKeyFile", IsText), ("tokenKeyEnvVar", IsText)]

/-- Values in the format of settings: objects with known fields, the version among them. -/
structure InFormat (v : Value) : Prop where
  version : v.field? "version" = some (.str "1.0")
  known : v.HasOnly checks

variable {v : Value}

theorem faults_anyText_eq : (fun v => anyText.faults v = []) = IsText := by
  funext v
  simp [anyText, Schema.faults_string_eq_nil, IsText]

theorem faults_someText_eq : (fun v => someText.faults v = []) = IsName := by
  funext v
  have hne (s : String) : 1 ≤ s.length ↔ s ≠ "" := by
    rw [Nat.one_le_iff_ne_zero, ne_eq, String.length_eq_zero_iff]
  simp [someText, Schema.faults_string_eq_nil, IsName, hne]

theorem faults_version_eq :
    (fun v => (Schema.string (some [formatVersion]) 0).faults v = []) = (· = .str "1.0") := by
  funext v
  simp [Schema.faults_string_eq_nil, formatVersion]

theorem faults_level_eq :
    (fun v => (Schema.string (some levelNames) 0).faults v = []) = IsLevel := by
  funext v
  simp only [Schema.faults_string_eq_nil, IsLevel, levelNames, eq_iff_iff]
  constructor
  · rintro ⟨s, rfl, -, hs⟩
    exact ⟨s, hs _ rfl, rfl⟩
  · rintro ⟨s, hs, rfl⟩
    refine ⟨s, rfl, Nat.zero_le _, ?_⟩
    rintro _ ⟨⟩
    exact hs

theorem faults_flag_eq : (fun v => Schema.boolean.faults v = []) = IsFlag := by
  funext v
  exact propext Schema.faults_boolean_eq_nil

/-- A section has nothing that is required. -/
theorem faults_section_eq {fields : List (String × Schema)} (hnodup : (fields.map (·.1)).Nodup) :
    (fun v => (Schema.object [] fields).faults v = [])
      = Value.HasOnly (fields.map fun f => (f.1, fun v => f.2.faults v = [])) := by
  funext v
  rw [Schema.faults_object_eq_nil hnodup]
  simp

theorem inFormat_iff : InFormat v ↔ v.HasOnly checks ∧ ∃ w, v.field? "version" = some w := by
  constructor
  · exact fun h => ⟨h.known, _, h.version⟩
  · rintro ⟨hknown, w, hversion⟩
    obtain ⟨check, hmem, hcheck⟩ := hknown.field hversion
    have hcheck' : check = (· = .str "1.0") := by
      simpa [checks] using hmem
    rw [hcheck'] at hcheck
    exact ⟨hcheck ▸ hversion, hknown⟩

/-- The schema finds no fault with just the values that are in the format. -/
theorem faults_schema_eq_nil : schema.faults v = [] ↔ InFormat v := by
  have hdatabase := @faults_section_eq [("path", someText)] (by decide)
  have hcluster := @faults_section_eq [("name", someText)] (by decide)
  have hargoCd := @faults_section_eq
    [("namespace", someText), ("configMapName", someText)] (by decide)
  have hlogging := @faults_section_eq
    [("level", .string (some levelNames) 0), ("json", .boolean)] (by decide)
  simp only [List.map_cons, List.map_nil, faults_someText_eq, faults_level_eq, faults_flag_eq]
    at hdatabase hcluster hargoCd hlogging
  rw [inFormat_iff, schema, Schema.faults_object_eq_nil (by decide)]
  simp only [List.map_cons, List.map_nil, faults_version_eq, hdatabase, hcluster, hargoCd,
    hlogging, faults_anyText_eq, List.forall_mem_singleton, checks]

/-! ## What a value in the format comes to -/

def text? : Option Value → Option String
  | some (.str s) => some s
  | _ => none

def flag? : Option Value → Option Bool
  | some (.bool b) => some b
  | _ => none

/-- A field of a section. -/
def within? (look : String → Option Value) (outer inner : String) : Option Value :=
  (look outer).bind (·.field? inner)

/-- The settings that can be told from look-ups; the defaults stand in for what is not found. -/
def ofLookups (look : String → Option Value) : Settings where
  version := (text? (look "version")).getD "1.0"
  database := ⟨text? (within? look "database" "path")⟩
  cluster := ⟨(text? (within? look "cluster" "name")).getD "default_cluster"⟩
  argoCd := ⟨(text? (within? look "argocd" "namespace")).getD "devtroncd",
    (text? (within? look "argocd" "configMapName")).getD "argocd-cm"⟩
  logging := ⟨(text? (within? look "logging" "level")).getD "info",
    (flag? (within? look "logging" "json")).getD false⟩
  tokenKey := text? (look "tokenKey")
  tokenKeyFile := text? (look "tokenKeyFile")
  tokenKeyVariable := some ((text? (look "tokenKeyEnvVar")).getD "GITOPS_TOKEN_KEY")

section

open ValueSource

theorem readDatabase_eq (hsettled : v.IsSettled) (h : v.HasOnly [("path", IsName)]) :
    readDatabase valueSource v = .ok ⟨text? (v.field? "path")⟩ := by
  refine record_eq_ok (?htake : TakeIn _ (fun look => (⟨text? (look "path")⟩ : DatabaseSettings)) _)
    rfl hsettled h fun _ _ => rfl
  exact .cons rfl (by rintro look _ - ⟨s, rfl, -⟩; rfl) .nil

theorem readCluster_eq (hsettled : v.IsSettled) (h : v.HasOnly [("name", IsName)]) :
    readCluster valueSource v = .ok ⟨(text? (v.field? "name")).getD "default_cluster"⟩ := by
  refine record_eq_ok (?htake : TakeIn _ (fun look =>
    (⟨(text? (look "name")).getD "default_cluster"⟩ : ClusterSettings)) _)
    rfl hsettled h fun _ _ => rfl
  exact .cons rfl (by rintro look _ - ⟨s, rfl, -⟩; rfl) .nil

theorem readArgoCd_eq (hsettled : v.IsSettled)
    (h : v.HasOnly [("namespace", IsName), ("configMapName", IsName)]) :
    readArgoCd valueSource v = .ok ⟨(text? (v.field? "namespace")).getD "devtroncd",
      (text? (v.field? "configMapName")).getD "argocd-cm"⟩ := by
  refine record_eq_ok (?htake : TakeIn _ (fun look =>
    (⟨(text? (look "namespace")).getD "devtroncd",
      (text? (look "configMapName")).getD "argocd-cm"⟩ : ArgoCdSettings)) _)
    rfl hsettled h fun _ _ => rfl
  exact .cons rfl (by rintro look _ - ⟨s, rfl, -⟩; rfl) <|
    .cons rfl (by rintro look _ - ⟨s, rfl, -⟩; rfl) .nil

theorem readLogging_eq (hsettled : v.IsSettled)
    (h : v.HasOnly [("level", IsLevel), ("json", IsFlag)]) :
    readLogging valueSource v = .ok ⟨(text? (v.field? "level")).getD "info",
      (flag? (v.field? "json")).getD false⟩ := by
  refine record_eq_ok (?htake : TakeIn _ (fun look =>
    (⟨(text? (look "level")).getD "info", (flag? (look "json")).getD false⟩ : LoggingSettings)) _)
    rfl hsettled h fun _ _ => rfl
  exact .cons rfl (by rintro look _ - ⟨s, -, rfl⟩; rfl) <|
    .cons rfl (by rintro look _ - ⟨b, rfl⟩; rfl) .nil

theorem takeIn_checks : TakeIn (fields valueSource) ofLookups checks := by
  refine .cons rfl ?version <| .cons rfl ?database <| .cons rfl ?cluster <| .cons rfl ?argoCd <|
    .cons rfl ?logging <| .cons rfl ?tokenKey <| .cons rfl ?tokenKeyFile <|
    .cons rfl ?tokenKeyVariable .nil
  case version =>
    rintro look _ - rfl
    rfl
  case database =>
    intro look v hsettled hv
    exact bind_eq_ok (readDatabase_eq hsettled hv)
  case cluster =>
    intro look v hsettled hv
    exact bind_eq_ok (readCluster_eq hsettled hv)
  case argoCd =>
    intro look v hsettled hv
    exact bind_eq_ok (readArgoCd_eq hsettled hv)
  case logging =>
    intro look v hsettled hv
    exact bind_eq_ok (readLogging_eq hsettled hv)
  all_goals
    rintro look _ - ⟨s, rfl⟩
    rfl

/-- Every value in the format can be taken for settings. -/
theorem ofValue_eq (hsettled : v.IsSettled) (h : InFormat v) :
    ofValue v = .ok (ofLookups v.field?) := by
  have hread : ofSource valueSource v = .ok (ofLookups v.field?) := by
    refine record_eq_ok takeIn_checks rfl hsettled h.known fun seen hseen => ?_
    have hversion : seen.contains "version" = true :=
      List.contains_iff_mem.mpr (hseen "version" _ h.version)
    simp only [hversion, if_true]
    rfl
  rw [ofValue, fromValue, hread]

end

/-! ## Names in force -/

/-- A name that can be overridden: what the variable says, if that is a text and not blank; else
what the value says, and else the default. -/
inductive InForce (h : Host) (variableName : String) (given : Option String) (default : String) :
    String → Prop where
  | override {s : String} (hset : h.variables.lookup variableName = some (utf8 s))
      (hs : isBlankText s = false) : InForce h variableName given default s
  | given {s : String}
      (hplain : ∀ s, h.variables.lookup variableName = some (utf8 s) → isBlankText s = true)
      (hgiven : given = some s) : InForce h variableName given default s
  | default
      (hplain : ∀ s, h.variables.lookup variableName = some (utf8 s) → isBlankText s = true)
      (hgiven : given = none) : InForce h variableName given default default

variable {h : Host}

theorem override?_eq_some {name s : String} :
    override? h name = some s ↔
      h.variables.lookup name = some (utf8 s) ∧ isBlankText s = false := by
  rw [← Host.variableText_eq_ok, override?, Option.filter_eq_some_iff, Bool.not_eq_true']
  refine and_congr_left' ?_
  cases h.variableText name <;> simp [Except.toOption]

theorem override?_eq_none {name : String} :
    override? h name = none ↔
      ∀ s, h.variables.lookup name = some (utf8 s) → isBlankText s = true := by
  rw [Option.eq_none_iff_forall_ne_some]
  refine forall_congr' fun s => ?_
  rw [ne_eq, override?_eq_some, not_and, Bool.not_eq_false]

theorem inForce_iff {name : String} {given : Option String} {default s : String} :
    InForce h name given default s ↔ s = (override? h name).getD (given.getD default) := by
  constructor
  · intro hs
    cases hs with
    | override hset hs => rw [override?_eq_some.mpr ⟨hset, hs⟩, Option.getD_some]
    | given hplain hgiven =>
        rw [override?_eq_none.mpr hplain, hgiven, Option.getD_none, Option.getD_some]
    | default hplain hgiven =>
        rw [override?_eq_none.mpr hplain, hgiven, Option.getD_none, Option.getD_none]
  · rintro rfl
    cases hoverride : override? h name with
    | some s =>
        obtain ⟨hset, hs⟩ := override?_eq_some.mp hoverride
        exact .override hset hs
    | none =>
        cases given with
        | some s => exact .given (override?_eq_none.mp hoverride) rfl
        | none => exact .default (override?_eq_none.mp hoverride) rfl

/-- What a value in the format is loaded as. -/
structure Loaded (h : Host) (v : Value) (s : Settings) : Prop where
  version : s.version = "1.0"
  path : s.database.path = text? (within? v.field? "database" "path")
  cluster : InForce h "GITOPS_CLUSTER_NAME" (text? (within? v.field? "cluster" "name"))
    "default_cluster" s.cluster.name
  space : InForce h "ACD_NAMESPACE" (text? (within? v.field? "argocd" "namespace"))
    "devtroncd" s.argoCd.space
  configMap : InForce h "ACD_CM" (text? (within? v.field? "argocd" "configMapName"))
    "argocd-cm" s.argoCd.configMap
  level : s.logging.level = (text? (within? v.field? "logging" "level")).getD "info"
  json : s.logging.json = (flag? (within? v.field? "logging" "json")).getD false
  tokenKey : s.tokenKey = text? (v.field? "tokenKey")
  tokenKeyFile : s.tokenKeyFile = text? (v.field? "tokenKeyFile")
  tokenKeyVariable :
    s.tokenKeyVariable = some ((text? (v.field? "tokenKeyEnvVar")).getD "GITOPS_TOKEN_KEY")

theorem loaded_iff (hv : InFormat v) {s : Settings} :
    Loaded h v s ↔ s = overridden h (ofLookups v.field?) := by
  have hversion : (text? (v.field? "version")).getD "1.0" = "1.0" := by
    rw [hv.version]
    rfl
  constructor
  · intro hs
    obtain ⟨version, ⟨path⟩, ⟨cluster⟩, ⟨space, configMap⟩, ⟨level, json⟩, key, file,
      variableName⟩ := s
    cases hs.version
    cases hs.path
    cases inForce_iff.mp hs.cluster
    cases inForce_iff.mp hs.space
    cases inForce_iff.mp hs.configMap
    cases hs.level
    cases hs.json
    cases hs.tokenKey
    cases hs.tokenKeyFile
    cases hs.tokenKeyVariable
    simp only [overridden, ofLookups, hversion]
    rfl
  · rintro rfl
    exact ⟨hversion, rfl, inForce_iff.mpr rfl, inForce_iff.mpr rfl, inForce_iff.mpr rfl, rfl, rfl,
      rfl, rfl, rfl⟩

theorem exists_loaded (h : Host) (hv : InFormat v) : ∃ s, Loaded h v s :=
  ⟨_, (loaded_iff hv).mpr rfl⟩

/-! ## Blank names -/

/-- No name is blank. -/
def NoneBlank (s : Settings) : Prop :=
  isBlankText s.cluster.name = false ∧ isBlankText s.argoCd.space = false ∧
    isBlankText s.argoCd.configMap = false

/-- The first name that is blank. -/
inductive FirstBlank (s : Settings) : String → Prop where
  | cluster (hcluster : isBlankText s.cluster.name = true) : FirstBlank s "cluster.name"
  | space (hcluster : isBlankText s.cluster.name = false)
      (hspace : isBlankText s.argoCd.space = true) : FirstBlank s "argocd.namespace"
  | configMap (hcluster : isBlankText s.cluster.name = false)
      (hspace : isBlankText s.argoCd.space = false)
      (hconfigMap : isBlankText s.argoCd.configMap = true) : FirstBlank s "argocd.configMapName"

variable {s : Settings}

theorem noneBlank_or (s : Settings) : NoneBlank s ∨ ∃ name, FirstBlank s name := by
  cases hcluster : isBlankText s.cluster.name with
  | true => exact .inr ⟨_, .cluster hcluster⟩
  | false =>
      cases hspace : isBlankText s.argoCd.space with
      | true => exact .inr ⟨_, .space hcluster hspace⟩
      | false =>
          cases hconfigMap : isBlankText s.argoCd.configMap with
          | true => exact .inr ⟨_, .configMap hcluster hspace hconfigMap⟩
          | false => exact .inl ⟨hcluster, hspace, hconfigMap⟩

/-- What a section in the format holds passes the check of its field. -/
theorem InFormat.within (hv : InFormat v) {outer inner : String} {x : Value}
    {fields : List (String × (Value → Prop))}
    (houter : ∀ check, (outer, check) ∈ checks → check = Value.HasOnly fields)
    (hx : within? v.field? outer inner = some x) :
    ∃ check, (inner, check) ∈ fields ∧ check x := by
  obtain ⟨w, hw, hfield⟩ := Option.bind_eq_some_iff.mp hx
  obtain ⟨check, hmem, hcheck⟩ := hv.known.field hw
  rw [houter check hmem] at hcheck
  exact hcheck.field hfield

theorem level_mem (hv : InFormat v) :
    (text? (within? v.field? "logging" "level")).getD "info" ∈
      ["trace", "debug", "info", "warn", "error"] := by
  cases hx : within? v.field? "logging" "level" with
  | none =>
      show "info" ∈ ["trace", "debug", "info", "warn", "error"]
      decide
  | some x =>
      have hsection : ∀ check, ("logging", check) ∈ checks →
          check = Value.HasOnly [("level", IsLevel), ("json", IsFlag)] := by simp [checks]
      obtain ⟨check, hmem, hcheck⟩ := hv.within hsection hx
      have hlevel : check = IsLevel := by simpa using hmem
      rw [hlevel] at hcheck
      obtain ⟨l, hl, rfl⟩ := hcheck
      exact hl

theorem level_known (hv : InFormat v) (hs : Loaded h v s) :
    levelNames.contains (s.logging.level.map Char.toLower) = true := by
  have hknown : ∀ l ∈ ["trace", "debug", "info", "warn", "error"],
      levelNames.contains (l.map Char.toLower) = true := by decide +kernel
  rw [hs.level]
  exact hknown _ (level_mem hv)

theorem checked_of_noneBlank (hv : InFormat v) (hs : Loaded h v s) (hblank : NoneBlank s) :
    checked s = .ok s := by
  obtain ⟨hcluster, hspace, hconfigMap⟩ := hblank
  have hnames : s.names.find? (fun f => isBlankText f.2) = none := by
    simp [names, hcluster, hspace, hconfigMap]
  have hfault : s.fault? = none := by
    unfold fault?
    rw [if_neg (by rw [hs.version]; decide), hnames]
    exact if_pos (level_known hv hs)
  rw [checked, hfault]

theorem checked_of_firstBlank (hs : Loaded h v s) {name : String} (hblank : FirstBlank s name) :
    checked s = .error (.invalid (.blankField name)) := by
  have hfault : s.fault? = some (.blankField name) := by
    unfold fault?
    rw [if_neg (by rw [hs.version]; decide)]
    cases hblank <;> simp [names, *]
  rw [checked, hfault]

/-! ## Loading -/

/-- Why a text cannot be loaded: it is not JSON, or not in the format, or leaves a name blank. -/
inductive Fails (h : Host) (text : String) : ConfigError → Prop where
  | notJson {e : Json.Error} (htext : Value.ofText text = .error e) : Fails h text (.notJson e)
  | misfit {v : Value} (htext : Value.ofText text = .ok v) (hv : ¬ InFormat v) :
      Fails h text (.misfit (schema.faults v))
  | blank {v : Value} {s : Settings} {name : String} (htext : Value.ofText text = .ok v)
      (hv : InFormat v) (hs : Loaded h v s) (hblank : FirstBlank s name) :
      Fails h text (.invalid (.blankField name))

theorem ofText_of_inFormat {text : String} (htext : Value.ofText text = .ok v) (hv : InFormat v) :
    ofText text = .ok (ofLookups v.field?) := by
  simp only [ofText, htext, faults_schema_eq_nil.mpr hv,
    ofValue_eq (Value.isSettled_ofText htext) hv]

theorem effective_of_inFormat {text : String} (htext : Value.ofText text = .ok v)
    (hv : InFormat v) (hs : Loaded h v s) : effective h text = checked s := by
  rw [effective, ofText_of_inFormat htext hv, (loaded_iff hv).mp hs]
  rfl

theorem effective_of_misfit {text : String} (htext : Value.ofText text = .ok v)
    (hv : ¬ InFormat v) : effective h text = .error (.misfit (schema.faults v)) := by
  have hread : ofText text = .error (.misfit (schema.faults v)) := by
    cases hfaults : schema.faults v with
    | nil => exact absurd (faults_schema_eq_nil.mp hfaults) hv
    | cons fault faults => simp only [ofText, htext, hfaults]
  rw [effective, hread]
  rfl

theorem effective_of_notJson {text : String} {e : Json.Error}
    (htext : Value.ofText text = .error e) : effective h text = .error (.notJson e) := by
  have hread : ofText text = .error (.notJson e) := by
    simp only [ofText, htext]
  rw [effective, hread]
  rfl

theorem effective_of_fails {text : String} {e : ConfigError} (hfails : Fails h text e) :
    effective h text = .error e := by
  cases hfails with
  | notJson htext => exact effective_of_notJson htext
  | misfit htext hv => exact effective_of_misfit htext hv
  | blank htext hv hs hblank =>
      rw [effective_of_inFormat htext hv hs, checked_of_firstBlank hs hblank]

/-- A text is loaded, or it is known why it is not. -/
theorem effective_cases (h : Host) (text : String) :
    (∃ v s, Value.ofText text = .ok v ∧ InFormat v ∧ Loaded h v s ∧ NoneBlank s) ∨
      ∃ e, Fails h text e := by
  cases htext : Value.ofText text with
  | error e => exact .inr ⟨_, .notJson htext⟩
  | ok v =>
      by_cases hv : InFormat v
      · obtain ⟨s, hs⟩ := exists_loaded h hv
        rcases s.noneBlank_or with hblank | ⟨name, hblank⟩
        · exact .inl ⟨v, s, rfl, hv, hs, hblank⟩
        · exact .inr ⟨_, .blank htext hv hs hblank⟩
      · exact .inr ⟨_, .misfit htext hv⟩

theorem effective_eq_ok {text : String} : effective h text = .ok s ↔
    ∃ v, Value.ofText text = .ok v ∧ InFormat v ∧ Loaded h v s ∧ NoneBlank s := by
  constructor
  · intro heq
    rcases effective_cases h text with ⟨v, s', htext, hv, hs, hblank⟩ | ⟨e, hfails⟩
    · rw [effective_of_inFormat htext hv hs, checked_of_noneBlank hv hs hblank] at heq
      cases heq
      exact ⟨v, htext, hv, hs, hblank⟩
    · cases heq.symm.trans (effective_of_fails hfails)
  · rintro ⟨v, htext, hv, hs, hblank⟩
    rw [effective_of_inFormat htext hv hs, checked_of_noneBlank hv hs hblank]

theorem effective_eq_error {text : String} {e : ConfigError} :
    effective h text = .error e ↔ Fails h text e := by
  constructor
  · intro heq
    rcases effective_cases h text with ⟨v, s, htext, hv, hs, hblank⟩ | ⟨e', hfails⟩
    · cases heq.symm.trans (effective_eq_ok.mpr ⟨v, htext, hv, hs, hblank⟩)
    · cases heq.symm.trans (effective_of_fails hfails)
      exact hfails
  · exact effective_of_fails

theorem load_eq {m : Type → Type} [Monad m] [LawfulMonad m] [Log.MonadLog m] (h : Host)
    (text : String) : ∃ notes, (load h text : m _)
      = reportOverrides notes >>= fun _ => pure (effective h text) := by
  cases hread : ofText text with
  | error e =>
      refine ⟨[], ?_⟩
      simp only [load, hread, effective, reportOverrides, pure_bind]
      rfl
  | ok s =>
      refine ⟨overrideNotes h, ?_⟩
      simp only [load, hread, effective, override, map_bind, map_pure]
      rfl

/-- The texts that are loaded are just those of values in the format that leave no name blank, with
the names in force and the defaults for what is not given. All other texts fail for the one reason
there is, and to be taken for settings is never in the way of a value in the format. Of several
fields with one name the last counts. -/
theorem effective_exactly (h : Host) (text : String) :
    (∀ s, effective h text = .ok s ↔
      ∃ v, Value.ofText text = .ok v ∧ InFormat v ∧ Loaded h v s ∧ NoneBlank s) ∧
      (∀ e, effective h text = .error e ↔ Fails h text e) ∧
      (∀ v, Value.ofText text = .ok v →
        (schema.faults v = [] ↔ InFormat v) ∧ (InFormat v → ∃ s, ofValue v = .ok s)) ∧
      (Value.ofText text = (Value.ofSpelling text).map Value.settled ∧
        ∀ fields name, (Value.settled (.object fields)).field? name
          = (lookup name fields.reverse).map Value.settled) ∧
      ∀ (m : Type → Type) [Monad m] [LawfulMonad m] [Log.MonadLog m], ∃ notes,
        (load h text : m _) = reportOverrides notes >>= fun _ => pure (effective h text) := by
  refine ⟨fun s => effective_eq_ok, fun e => effective_eq_error, fun v htext => ?_,
    ⟨Value.ofText_eq text, fun fields name => Value.field?_settled name fields⟩,
    fun m _ _ _ => load_eq h text⟩
  exact ⟨faults_schema_eq_nil, fun hv => ⟨_, ofValue_eq (Value.isSettled_ofText htext) hv⟩⟩

end CredRegistry.Settings
