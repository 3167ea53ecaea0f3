import CredRegistry.Json.Schema
import CredRegistry.Json.Source
import CredRegistry.Proofs.Json.Spelled

/-!
# Objects with known fields

`Value.HasOnly` says of an object that all its fields are known and hold what they have to. It is
what a schema of an object comes to (`Schema.faults_object_eq_nil`), and it is enough for a record
to be read from the object (`ValueSource.record_eq`): every field is taken in, whatever their order
is, and what becomes of the record can be told from the look-ups alone.
-/

namespace CredRegistry.Json

namespace Value

/-- An object that has no other fields than these, and in each of them a value that passes its
check. -/
def HasOnly (checks : List (String × (Value → Prop))) (v : Value) : Prop :=
  ∃ given, v = .object given ∧ ∀ f ∈ given, ∃ check, (f.1, check) ∈ checks ∧ check f.2

theorem HasOnly.field {checks : List (String × (Value → Prop))} {v w : Value} {name : String}
    (h : v.HasOnly checks) (hfield : v.field? name = some w) :
    ∃ check, (name, check) ∈ checks ∧ check w := by
  obtain ⟨given, rfl, hgiven⟩ := h
  exact hgiven (name, w) (mem_of_lookup hfield)

end Value

/-! ## Schemas -/

namespace Schema

theorem optionFaults_eq_nil {options : Option (List String)} {s : String} :
    optionFaults (.str s) options = [] ↔ ∀ os ∈ options, s ∈ os := by
  cases options with
  | none => simp [optionFaults]
  | some os => by_cases hs : s ∈ os <;> simp [optionFaults, hs]

theorem faults_string_eq_nil {options : Option (List String)} {least : Nat} {v : Value} :
    (Schema.string options least).faults v = [] ↔
      ∃ s, v = .str s ∧ least ≤ s.length ∧ ∀ os ∈ options, s ∈ os := by
  unfold faults stringFaults
  rw [List.append_eq_nil_iff]
  constructor
  · rintro ⟨hoptions, hlength⟩
    cases v with
    | str s =>
        refine ⟨s, rfl, Nat.le_of_not_lt fun hshort => ?_, optionFaults_eq_nil.mp hoptions⟩
        simp [hshort] at hlength
    | _ => cases hlength
  · rintro ⟨s, rfl, hlength, hoptions⟩
    exact ⟨optionFaults_eq_nil.mpr hoptions, if_neg (Nat.not_lt.mpr hlength)⟩

theorem faults_boolean_eq_nil {v : Value} : Schema.boolean.faults v = [] ↔ ∃ b, v = .bool b := by
  cases v <;> simp [faults]

theorem fieldFaults_eq {fields : List (String × Schema)} {name : String} {schema : Schema}
    (hnodup : (fields.map (·.1)).Nodup) (hmem : (name, schema) ∈ fields) (v : Value) :
    fieldFaults fields name v = schema.faults v := by
  induction fields with
  | nil => cases hmem
  | cons f fields ih =>
      obtain ⟨hfresh, hnodup⟩ := List.nodup_cons.mp hnodup
      rw [fieldFaults]
      rcases List.mem_cons.mp hmem with rfl | hmem
      · rw [if_pos rfl]
      · have hne : f.1 ≠ name := by
          rintro rfl
          exact hfresh (List.mem_map.mpr ⟨(f.1, schema), hmem, rfl⟩)
        rw [if_neg hne, ih hnodup hmem]

theorem unexpectedFaults_eq_nil {known : List String} {given : List (String × Value)} :
    unexpectedFaults known given = [] ↔ ∀ f ∈ given, f.1 ∈ known := by
  have hnames : (given.map (·.1)).filter (fun name => !known.contains name) = [] ↔
      ∀ f ∈ given, f.1 ∈ known := by
    simp [List.filter_eq_nil_iff]
  rw [← hnames]
  unfold unexpectedFaults
  split
  next hnil => exact ⟨fun _ => hnil, fun _ => rfl⟩
  next hne => exact ⟨nofun, fun hnil => absurd hnil hne⟩

theorem missingFaults_eq_nil {required : List String} {given : List (String × Value)} :
    missingFaults required given = [] ↔ ∀ name ∈ required, ∃ v, lookup name given = some v := by
  simp [missingFaults, List.filter_eq_nil_iff, Option.ne_none_iff_exists']

theorem faults_object (required : List String) (fields : List (String × Schema))
    (given : List (String × Value)) :
    (Schema.object required fields).faults (.object given)
      = (given.flatMap fun f => fieldFaults fields f.1 f.2)
        ++ unexpectedFaults (fields.map (·.1)) given ++ missingFaults required given :=
  rfl

/-- An object fits if its fields are all among those of the schema and fit the schemas these have,
and none that is required is missing. -/
theorem faults_object_eq_nil {required : List String} {fields : List (String × Schema)}
    (hnodup : (fields.map (·.1)).Nodup) {v : Value} :
    (Schema.object required fields).faults v = [] ↔
      v.HasOnly (fields.map fun f => (f.1, fun v => f.2.faults v = [])) ∧
        ∀ name ∈ required, ∃ w, v.field? name = some w := by
  cases v with
  | object given =>
      rw [faults_object, List.append_eq_nil_iff, List.append_eq_nil_iff, missingFaults_eq_nil,
        unexpectedFaults_eq_nil, List.flatMap_eq_nil_iff]
      refine and_congr_left' ?_
      constructor
      · rintro ⟨hfit, hknown⟩
        refine ⟨given, rfl, fun f hf => ?_⟩
        obtain ⟨⟨name, schema⟩, hmem, heq⟩ := List.mem_map.mp (hknown f hf)
        cases heq
        refine ⟨_, List.mem_map.mpr ⟨_, hmem, rfl⟩, ?_⟩
        rw [← fieldFaults_eq hnodup hmem, hfit f hf]
      · rintro ⟨_, heq, hfit⟩
        cases heq
        have hcheck (f : String × Value) (hf : f ∈ given) :
            ∃ schema, (f.1, schema) ∈ fields ∧ schema.faults f.2 = [] := by
          obtain ⟨check, hmapped, hcheck⟩ := hfit f hf
          obtain ⟨⟨name, schema⟩, hmem, heq⟩ := List.mem_map.mp hmapped
          cases heq
          exact ⟨schema, hmem, hcheck⟩
        constructor
        · intro f hf
          obtain ⟨schema, hmem, hfaults⟩ := hcheck f hf
          rw [fieldFaults_eq hnodup hmem, hfaults]
        · intro f hf
          obtain ⟨schema, hmem, -⟩ := hcheck f hf
          exact List.mem_map.mpr ⟨_, hmem, rfl⟩
  | _ =>
      constructor
      · exact nofun
      · rintro ⟨⟨_, heq, -⟩, -⟩
        cases heq

end Schema

/-! ## Records -/

/-- Look-ups with one more field. -/
def withField (look : String → Option Value) (name : String) (v : Value) : String → Option Value :=
  fun k => if k = name then some v else look k

namespace ValueSource

variable {α σ : Type} {fs : List (Field ValueReader σ)}
  {target : (String → Option Value) → σ} {checks : List (String × (Value → Prop))}

/-- Does each field of a record take in every value that passes its check, whatever was taken in
before? The record is then what `target` makes of the look-ups. -/
def TakeIn (fs : List (Field ValueReader σ)) (target : (String → Option Value) → σ)
    (checks : List (String × (Value → Prop))) : Prop :=
  ∀ c ∈ checks, ∃ f, fs.find? (·.name == c.1) = some f ∧
    ∀ look (v : Value), v.IsSettled → c.2 v →
      f.take (target look) v = .ok (target (withField look c.1 v))

theorem TakeIn.nil : TakeIn fs target [] := nofun

theorem TakeIn.cons {name : String} {check : Value → Prop} {f : Field ValueReader σ}
    (hfind : fs.find? (·.name == name) = some f)
    (hf : ∀ look (v : Value), v.IsSettled → check v →
      f.take (target look) v = .ok (target (withField look name v)))
    (h : TakeIn fs target checks) : TakeIn fs target ((name, check) :: checks) := by
  intro c hc
  rcases List.mem_cons.mp hc with rfl | hc
  · exact ⟨f, hfind, hf⟩
  · exact h c hc

theorem bind_eq_ok {β : Type} {r : ValueReader α} {f : α → ValueReader β} {v : Value} {a : α}
    (h : r v = .ok a) : (r >>= f) v = f a v := by
  simp only [bind, ReaderT.bind, Except.bind, h]

theorem fields_eq (htake : TakeIn fs target checks) {given : List (String × Value)}
    (hgiven : ∀ f ∈ given, ∃ check, (f.1, check) ∈ checks ∧ check f.2)
    (hnodup : (given.map (·.1)).Nodup) (hsettled : ∀ f ∈ given, f.2.IsSettled) :
    ∀ seen look, (∀ k ∈ given.map (·.1), k ∉ seen) →
      ∃ seen', fields fs given seen (target look)
        = .ok (target fun k => (lookup k given).or (look k), seen') ∧
        ∀ k, k ∈ seen' ↔ k ∈ given.map (·.1) ∨ k ∈ seen := by
  induction given with
  | nil =>
      intro seen look _
      exact ⟨seen, rfl, fun k => by simp⟩
  | cons g given ih =>
      obtain ⟨name, v⟩ := g
      obtain ⟨hfresh, hnodup⟩ := List.nodup_cons.mp hnodup
      intro seen look hseen
      obtain ⟨check, hmem, hcheck⟩ := hgiven (name, v) List.mem_cons_self
      obtain ⟨f, hfind, htaken⟩ := htake _ hmem
      have hnew : seen.contains name = false := by
        simpa using hseen name List.mem_cons_self
      have hrest : ∀ k ∈ given.map (·.1), k ∉ name :: seen := by
        intro k hk
        rw [List.mem_cons, not_or]
        refine ⟨?_, hseen k (List.mem_cons_of_mem _ hk)⟩
        rintro rfl
        exact hfresh hk
      obtain ⟨seen', hfields, hseen'⟩ := ih (fun f hf => hgiven f (List.mem_cons_of_mem _ hf))
        hnodup (fun f hf => hsettled f (List.mem_cons_of_mem _ hf)) (name :: seen)
        (withField look name v) hrest
      have hlook : (fun k => (lookup k given).or (withField look name v k))
          = fun k => (lookup k ((name, v) :: given)).or (look k) := by
        funext k
        rw [lookup_cons, withField]
        by_cases heq : k = name
        · rw [heq, if_pos rfl, if_pos rfl, lookup_eq_none_iff.mpr hfresh]
          rfl
        · rw [if_neg heq, if_neg (Ne.symm heq)]
      refine ⟨seen', ?_, fun k => ?_⟩
      · rw [← hlook, ← hfields, fields, hfind]
        simp only [hnew, htaken look v (hsettled _ List.mem_cons_self) hcheck]
        rfl
      · rw [hseen', List.map_cons, List.mem_cons, List.mem_cons]
        tauto

/-- A record is read from an object that has only known fields, with nothing left out. -/
theorem record_eq_ok {name : String} {start : σ} {finish : Given → σ → ValueReader α} {v : Value}
    {a : α} (htake : TakeIn fs target checks) (hstart : start = target fun _ => none)
    (hsettled : v.IsSettled) (hv : v.HasOnly checks)
    (hfinish : ∀ seen, (∀ k w, v.field? k = some w → k ∈ seen) →
      finish (.fields seen) (target v.field?) v = .ok a) :
    valueSource.record name fs start finish v = .ok a := by
  change record name fs start finish v = .ok a
  obtain ⟨given, rfl, hgiven⟩ := hv
  obtain ⟨hnodup, hfields⟩ := hsettled.fields
  obtain ⟨seen, heq, hseen⟩ := fields_eq htake hgiven hnodup hfields [] (fun _ => none)
    fun _ _ => List.not_mem_nil
  have hlook : (fun k => (lookup k given).or none) = (Value.object given).field? := by
    funext k
    exact Option.or_none
  rw [hlook, ← hstart] at heq
  simp only [record, heq, bind, Except.bind]
  refine hfinish seen fun k w hw => (hseen k).mpr (.inl ?_)
  by_contra hfresh
  rw [Value.field?, lookup_eq_none_iff.mpr hfresh] at hw
  cases hw

end ValueSource

end CredRegistry.Json
