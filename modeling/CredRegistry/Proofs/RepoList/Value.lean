import CredRegistry.Proofs.Yaml.Reading
import CredRegistry.RepoList.Decode
import CredRegistry.RepoList.Encode

/-!
# Entries as values

`Entry.toValue` leaves out what is empty or absent and writes the extra fields behind the
managed ones. `Entry.ofValue?` is the way back, on values alone: it takes the fields in
one by one, as the reader of a document does.

The two agree as long as no extra field has the name of a managed one (`ofValue?_toValue`).
That is no restriction on what a document can bring in: a field with a managed name is
always taken for the managed one.
-/

namespace CredRegistry.RepoList

open CredRegistry.Yaml

/-! ## Extra fields -/

/-- Names of the fields of a reference that this library manages. -/
def refNames : List String := ["name", "key"]

/-- Names of the fields of an entry that this library manages. -/
def entryNames : List String := ["url", "usernameSecret", "passwordSecret"]

/-- Extra fields as they can come out of a document: none has a managed name, no mapping
in them holds a key twice, and nothing in them is tagged. -/
def Carried (names : List String) (fields : ExtraFields) : Prop :=
  ∀ f ∈ fields, f.1 ∉ names ∧ f.2.duplicateKey? = none ∧ f.2.isUntagged = true

theorem Carried.nil (names : List String) : Carried names [] := by simp [Carried]

theorem Carried.tail {names : List String} {f : String × Value} {fields : ExtraFields}
    (h : Carried names (f :: fields)) : Carried names fields :=
  fun g hg => h g (List.mem_cons_of_mem _ hg)

/-- A reference whose extra fields can come out of a document. -/
def SecretKeyRef.Proper (r : SecretKeyRef) : Prop := Carried refNames r.extra.entries

/-- An entry whose extra fields, and those of its references, can come out of a
document. -/
structure Entry.Proper (e : Entry) : Prop where
  username : ∀ r ∈ e.usernameSecret, r.Proper
  password : ∀ r ∈ e.passwordSecret, r.Proper
  extra : Carried entryNames e.extra.entries

theorem SecretKeyRef.proper_to (name key : String) : (SecretKeyRef.to name key).Proper :=
  Carried.nil refNames

/-- Extra fields that are carried come through the check for keys that stand twice, and
make the dictionary they come from. -/
theorem extraOf_entries {names : List String} {extra : Dict Value}
    (h : Carried names extra.entries) : extraOf extra.entries = .ok extra := by
  have hnone : (extra.entries.findSome? fun f => f.2.duplicateKey?) = none :=
    List.findSome?_eq_none_iff.mpr fun f hf => (h f hf).2.1
  rw [extraOf, hnone, Dict.ofList_entries]

/-- Of fields without managed names or tags, what passes that check is carried. -/
theorem carried_of_extraOf {names : List String} {fields : ExtraFields} {extra : Dict Value}
    (h : extraOf fields = .ok extra)
    (hfields : ∀ f ∈ fields, f.1 ∉ names ∧ f.2.isUntagged = true) :
    Carried names extra.entries := by
  unfold extraOf at h
  split at h
  · cases h
  next hnone =>
    cases h
    intro f hf
    have hmem := Dict.mem_of_mem_ofList hf
    exact ⟨(hfields f hmem).1, List.findSome?_eq_none_iff.mp hnone f hmem, (hfields f hmem).2⟩

/-! ## References -/

def RefDraft.take (r : RefDraft) : Value × Value → Option RefDraft
  | (.str "name", .str s) => if r.name.isNone then some { r with name := some s } else none
  | (.str "key", .str s) => if r.key.isNone then some { r with key := some s } else none
  | (.str name, v) =>
      if name ∈ refNames then none else some { r with extra := r.extra ++ [(name, v)] }
  | _ => none

def SecretKeyRef.ofValue? : Value → Option SecretKeyRef
  | .map fields => do
      let r ← fields.foldlM RefDraft.take ⟨none, none, []⟩
      r.finish.toOption
  | _ => none

theorem RefDraft.take_extra {name : String} (h : name ∉ refNames) (r : RefDraft) (v : Value) :
    r.take (.str name, v) = some { r with extra := r.extra ++ [(name, v)] } := by
  simp only [refNames, List.mem_cons, List.not_mem_nil, or_false, not_or] at h
  unfold RefDraft.take
  split <;> simp_all [refNames]

theorem RefDraft.foldlM_extra {fields : ExtraFields} (h : Carried refNames fields) :
    ∀ (r : RefDraft), (fields.map fun (k, v) => (Value.str k, v)).foldlM RefDraft.take r
      = some { r with extra := r.extra ++ fields } := by
  induction fields with
  | nil => simp
  | cons f fields ih =>
      intro r
      obtain ⟨k, v⟩ := f
      have hk : k ∉ refNames := (h (k, v) (List.mem_cons_self ..)).1
      rw [List.map_cons, List.foldlM_cons, take_extra hk]
      simp only [Option.bind_eq_bind, Option.bind_some]
      rw [ih h.tail]
      simp

/-- A text field as it is read: one that is empty is not written and not read. -/
def unlessEmpty (s : String) : Option String := if s.isEmpty then none else some s

theorem getD_unlessEmpty (s : String) : (unlessEmpty s).getD "" = s := by
  unfold unlessEmpty
  split
  next h => exact (String.isEmpty_iff.mp h).symm
  next => rfl

/-- What the fields of a reference are taken in as, when they are written one after the
other. -/
theorem RefDraft.foldlM_toValue {r : SecretKeyRef} (h : r.Proper) :
    (textField "name" r.name ++ textField "key" r.key ++ extraFields r.extra).foldlM
        RefDraft.take ⟨none, none, []⟩
      = some ⟨unlessEmpty r.name, unlessEmpty r.key, r.extra.entries⟩ := by
  have hname : (textField "name" r.name).foldlM RefDraft.take ⟨none, none, []⟩
      = some ⟨unlessEmpty r.name, none, []⟩ := by
    unfold textField unlessEmpty
    split <;> rfl
  have hkey (n : Option String) :
      (textField "key" r.key).foldlM RefDraft.take ⟨n, none, []⟩
        = some ⟨n, unlessEmpty r.key, []⟩ := by
    unfold textField unlessEmpty
    split <;> rfl
  rw [List.foldlM_append, List.foldlM_append, hname]
  simp only [Option.bind_eq_bind, Option.bind_some, hkey]
  rw [extraFields, foldlM_extra h]
  simp

theorem SecretKeyRef.ofValue?_toValue {r : SecretKeyRef} (h : r.Proper) :
    ofValue? r.toValue = some r := by
  rw [toValue, ofValue?, RefDraft.foldlM_toValue h]
  simp only [Option.bind_eq_bind, Option.bind_some, RefDraft.finish, extraOf_entries h,
    getD_unlessEmpty]
  rfl

/-! ## Entries -/

def EntryDraft.take (e : EntryDraft) : Value × Value → Option EntryDraft
  | (.str "url", .str s) => if e.url.isNone then some { e with url := some s } else none
  | (.str "usernameSecret", v) =>
      if e.usernameSecret.isNone then
        (SecretKeyRef.ofValue? v).map fun r => { e with usernameSecret := some (some r) }
      else none
  | (.str "passwordSecret", v) =>
      if e.passwordSecret.isNone then
        (SecretKeyRef.ofValue? v).map fun r => { e with passwordSecret := some (some r) }
      else none
  | (.str name, v) =>
      if name ∈ entryNames then none else some { e with extra := e.extra ++ [(name, v)] }
  | _ => none

def Entry.ofValue? : Value → Option Entry
  | .map fields => do
      let e ← fields.foldlM EntryDraft.take ⟨none, none, none, []⟩
      e.finish.toOption
  | _ => none

theorem EntryDraft.take_extra {name : String} (h : name ∉ entryNames) (e : EntryDraft)
    (v : Value) : e.take (.str name, v) = some { e with extra := e.extra ++ [(name, v)] } := by
  simp only [entryNames, List.mem_cons, List.not_mem_nil, or_false, not_or] at h
  unfold EntryDraft.take
  split <;> simp_all [entryNames]

theorem EntryDraft.foldlM_extra {fields : ExtraFields} (h : Carried entryNames fields) :
    ∀ (e : EntryDraft), (fields.map fun (k, v) => (Value.str k, v)).foldlM EntryDraft.take e
      = some { e with extra := e.extra ++ fields } := by
  induction fields with
  | nil => simp
  | cons f fields ih =>
      intro e
      obtain ⟨k, v⟩ := f
      have hk : k ∉ entryNames := (h (k, v) (List.mem_cons_self ..)).1
      rw [List.map_cons, List.foldlM_cons, take_extra hk]
      simp only [Option.bind_eq_bind, Option.bind_some]
      rw [ih h.tail]
      simp

/-- What the fields of an entry are taken in as, when they are written one after the
other. A reference that is present but empty is written as an empty mapping and stays
present. -/
theorem EntryDraft.foldlM_toValue {e : Entry} (h : e.Proper) :
    (textField "url" e.url ++ refField "usernameSecret" e.usernameSecret
        ++ refField "passwordSecret" e.passwordSecret ++ extraFields e.extra).foldlM
        EntryDraft.take ⟨none, none, none, []⟩
      = some ⟨unlessEmpty e.url, e.usernameSecret.map some, e.passwordSecret.map some,
          e.extra.entries⟩ := by
  have hurl : (textField "url" e.url).foldlM EntryDraft.take ⟨none, none, none, []⟩
      = some ⟨unlessEmpty e.url, none, none, []⟩ := by
    unfold textField unlessEmpty
    split <;> rfl
  have husername (u : Option String) :
      (refField "usernameSecret" e.usernameSecret).foldlM EntryDraft.take ⟨u, none, none, []⟩
        = some ⟨u, e.usernameSecret.map some, none, []⟩ := by
    cases hr : e.usernameSecret with
    | none => rfl
    | some r =>
        have hread := SecretKeyRef.ofValue?_toValue (h.username r hr)
        simp [refField, EntryDraft.take, hread]
  have hpassword (u : Option String) (n : Option (Option SecretKeyRef)) :
      (refField "passwordSecret" e.passwordSecret).foldlM EntryDraft.take ⟨u, n, none, []⟩
        = some ⟨u, n, e.passwordSecret.map some, []⟩ := by
    cases hr : e.passwordSecret with
    | none => rfl
    | some r =>
        have hread := SecretKeyRef.ofValue?_toValue (h.password r hr)
        simp [refField, EntryDraft.take, hread]
  rw [List.foldlM_append, List.foldlM_append, List.foldlM_append, hurl]
  simp only [Option.bind_eq_bind, Option.bind_some, husername, hpassword]
  rw [extraFields, foldlM_extra h.extra]
  simp

theorem join_map_some {α : Type} (o : Option α) : (o.map some).join = o := by cases o <;> rfl

/-- An entry comes back from its value: absent references stay absent, empty ones stay
present. -/
theorem Entry.ofValue?_toValue {e : Entry} (h : e.Proper) : ofValue? e.toValue = some e := by
  rw [toValue, ofValue?, EntryDraft.foldlM_toValue h]
  simp only [Option.bind_eq_bind, Option.bind_some, EntryDraft.finish,
    extraOf_entries h.extra, getD_unlessEmpty, join_map_some]
  rfl

/-! ## Tags and single entries

What can stand in the way of writing an entry comes from its extra fields. -/

/-- Does some extra field nest single entries? -/
def nestSingle (extra : Dict Value) : Bool := extra.entries.any fun f => f.2.nestsSingle

/-- Does some extra field of the entry or of its references nest single entries? -/
def Entry.nestsSingle (e : Entry) : Bool :=
  (e.usernameSecret.any fun r => nestSingle r.extra)
    || (e.passwordSecret.any fun r => nestSingle r.extra) || nestSingle e.extra

theorem pairsUntagged_append {as bs : List (Value × Value)} :
    Value.pairsUntagged (as ++ bs) = (Value.pairsUntagged as && Value.pairsUntagged bs) := by
  induction as with
  | nil => rfl
  | cons a as ih => simp [Value.pairsUntagged, ih, Bool.and_assoc]

theorem pairsNestSingle_append {as bs : List (Value × Value)} :
    Value.pairsNestSingle (as ++ bs)
      = (Value.pairsNestSingle as || Value.pairsNestSingle bs) := by
  induction as with
  | nil => rfl
  | cons a as ih => simp [Value.pairsNestSingle, ih, Bool.or_assoc]

theorem pairsUntagged_textField (name s : String) :
    Value.pairsUntagged (textField name s) = true := by
  unfold textField
  split <;> rfl

theorem pairsNestSingle_textField (name s : String) :
    Value.pairsNestSingle (textField name s) = false := by
  unfold textField
  split <;> rfl

theorem pairsUntagged_extraFields {names : List String} {extra : Dict Value}
    (h : Carried names extra.entries) : Value.pairsUntagged (extraFields extra) = true := by
  refine Value.pairsUntagged_iff.mpr fun p hp => ?_
  obtain ⟨f, hf, rfl⟩ := List.mem_map.mp hp
  exact ⟨rfl, (h f hf).2.2⟩

theorem pairsNestSingle_extraFields (extra : Dict Value) :
    Value.pairsNestSingle (extraFields extra) = nestSingle extra := by
  unfold extraFields nestSingle
  induction extra.entries with
  | nil => rfl
  | cons f fields ih => simp [Value.pairsNestSingle, Value.nestsSingle, ih]

theorem singleUnderSingle_of_strings {pairs : List (Value × Value)}
    (h : ∀ p ∈ pairs, ∃ s, p.1 = .str s) : Value.singleUnderSingle pairs = false := by
  rcases pairs with _ | ⟨⟨k, v⟩, _ | ⟨q, pairs⟩⟩
  · rfl
  · obtain ⟨s, rfl⟩ := h (k, v) (List.mem_cons_self ..)
    rfl
  · rfl

theorem string_of_mem_textField {name s : String} {p : Value × Value}
    (h : p ∈ textField name s) : ∃ s, p.1 = .str s := by
  unfold textField at h
  split at h
  · cases h
  · exact ⟨name, by rw [List.mem_singleton.mp h]⟩

theorem string_of_mem_extraFields {extra : Dict Value} {p : Value × Value}
    (h : p ∈ extraFields extra) : ∃ s, p.1 = .str s := by
  obtain ⟨f, -, rfl⟩ := List.mem_map.mp h
  exact ⟨f.1, rfl⟩

theorem string_of_mem_refField {name : String} {r : Option SecretKeyRef} {p : Value × Value}
    (h : p ∈ refField name r) : ∃ s, p.1 = .str s := by
  cases r with
  | none => cases h
  | some r => exact ⟨name, by rw [List.mem_singleton.mp h]⟩

theorem SecretKeyRef.isUntagged_toValue {r : SecretKeyRef} (h : r.Proper) :
    r.toValue.isUntagged = true := by
  simp only [toValue, Value.isUntagged, pairsUntagged_append, pairsUntagged_textField,
    pairsUntagged_extraFields h, Bool.and_self]

theorem SecretKeyRef.nestsSingle_toValue (r : SecretKeyRef) :
    r.toValue.nestsSingle = nestSingle r.extra := by
  have hkeys : Value.singleUnderSingle
      (textField "name" r.name ++ textField "key" r.key ++ extraFields r.extra) = false := by
    refine singleUnderSingle_of_strings fun p hp => ?_
    simp only [List.mem_append] at hp
    rcases hp with (hp | hp) | hp
    · exact string_of_mem_textField hp
    · exact string_of_mem_textField hp
    · exact string_of_mem_extraFields hp
  simp only [toValue, Value.nestsSingle, hkeys, pairsNestSingle_append,
    pairsNestSingle_textField, pairsNestSingle_extraFields, Bool.or_false, Bool.false_or]

theorem pairsUntagged_refField {name : String} {r : Option SecretKeyRef}
    (h : ∀ s ∈ r, s.Proper) : Value.pairsUntagged (refField name r) = true := by
  cases r with
  | none => rfl
  | some r =>
      simp [refField, Value.pairsUntagged, Value.isUntagged,
        SecretKeyRef.isUntagged_toValue (h r rfl)]

theorem pairsNestSingle_refField (name : String) (r : Option SecretKeyRef) :
    Value.pairsNestSingle (refField name r) = r.any fun r => nestSingle r.extra := by
  cases r with
  | none => rfl
  | some r =>
      simp [refField, Value.pairsNestSingle, Value.nestsSingle,
        SecretKeyRef.nestsSingle_toValue]

theorem Entry.isUntagged_toValue {e : Entry} (h : e.Proper) : e.toValue.isUntagged = true := by
  simp only [toValue, Value.isUntagged, pairsUntagged_append, pairsUntagged_textField,
    pairsUntagged_refField h.username, pairsUntagged_refField h.password,
    pairsUntagged_extraFields h.extra, Bool.and_self]

theorem Entry.nestsSingle_toValue (e : Entry) : e.toValue.nestsSingle = e.nestsSingle := by
  have hkeys : Value.singleUnderSingle
      (textField "url" e.url ++ refField "usernameSecret" e.usernameSecret
        ++ refField "passwordSecret" e.passwordSecret ++ extraFields e.extra) = false := by
    refine singleUnderSingle_of_strings fun p hp => ?_
    simp only [List.mem_append] at hp
    rcases hp with ((hp | hp) | hp) | hp
    · exact string_of_mem_textField hp
    · exact string_of_mem_refField hp
    · exact string_of_mem_refField hp
    · exact string_of_mem_extraFields hp
  simp only [toValue, Value.nestsSingle, hkeys, pairsNestSingle_append,
    pairsNestSingle_textField, pairsNestSingle_refField, pairsNestSingle_extraFields,
    Bool.or_false, Bool.false_or]
  rfl

end CredRegistry.RepoList
