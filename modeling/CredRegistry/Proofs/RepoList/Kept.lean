import CredRegistry.Proofs.RepoList.Decoding
import CredRegistry.Proofs.Yaml.Untyped

/-!
# What an entry keeps of a mapping

The reader of entries and the plain view of a text meet the same mappings. Next to the view of a
mapping, the fields that are read of it are followed one by one (`foldlM_named`), so it is known of
a draft at any point which of the fields it has taken in.

An entry keeps a field that is not its own under the *text* of its key. That is the key itself if
the key is a string, and a string in its place if it is not (`Named`). Of fields whose keys have
one text the last is kept (`Kept`).
-/

namespace CredRegistry.RepoList

open CredRegistry.Yaml
open Yaml.Reading Yaml.Document

/-- Is this what a field of a mapping is known as, when keys are known by their texts? -/
def Named (kv : Value × Value) (f : String × Value) : Prop :=
  f.2 = kv.2 ∧ ∀ s, kv.1 = .str s → f.1 = s

/-- Are these the fields of a mapping that have none of the names, by the texts of their keys? -/
def Kept (names : List String) (kvs : List (Value × Value)) (extra : Dict Value) : Prop :=
  ∃ fields, List.Forall₂ Named kvs fields ∧
    extra = Dict.ofList (fields.filter fun f => f.1 ∉ names)

/-! ## Records beside mappings -/

section

variable {σ : Type} {d : Document} {field : σ → String → Nat → Path → Node → Reading σ}
  {P : ExtraFields → σ → Prop}

/-- What each field that is read takes along to the next is there in the end, next to a view of the
fields. -/
theorem foldlM_named {k : Nat} {path : Path}
    (hstep : ∀ fields s s' name k path n v j j', P fields s →
      field s name k path n j = .ok (s', j') → d.Shows n v → P (fields ++ [(name, v)]) s')
    {pairs : List (Node × Node)} {kvs : List (Value × Value)}
    (hpairs : List.Forall₂ (fun p kv => d.Shows p.1 kv.1 ∧ d.Shows p.2 kv.2) pairs kvs) :
    ∀ {fields : ExtraFields} {s s' : σ} {j j' : Nat}, P fields s →
      (pairs.foldlM (fieldStep d k path field) s) j = .ok (s', j') →
      ∃ more, List.Forall₂ Named kvs more ∧ P (fields ++ more) s' := by
  induction hpairs with
  | nil =>
      intro fields s s' j j' hP h
      obtain ⟨rfl, -⟩ := pure_ok.mp h
      exact ⟨[], .nil, by rwa [List.append_nil]⟩
  | @cons p kv _ _ hp _ ih =>
      intro fields s s' j j' hP h
      rw [List.foldlM_cons] at h
      obtain ⟨t, j₁, ht, h⟩ := bind_ok.mp h
      obtain ⟨name, j₂, hname, ht⟩ := bind_ok.mp ht
      obtain ⟨more, hmore, hP⟩ := ih (hstep _ _ _ _ _ _ _ _ _ _ hP ht hp.2) h
      refine ⟨(name, kv.2) :: more, .cons ⟨rfl, fun s hs => ?_⟩ hmore, ?_⟩
      · exact (hs ▸ hp.1).text hname
      · rwa [List.append_assoc] at hP

/-- Where a mapping is seen, a record is read of its fields. -/
theorem record_named {α : Type} {start : σ} {finish : σ → Except DataFault α}
    (hstart : P [] start)
    (hstep : ∀ fields s s' name k path n v j j', P fields s →
      field s name k path n j = .ok (s', j') → d.Shows n v → P (fields ++ [(name, v)]) s')
    {depth : Nat} {path : Path} {expected : String} {n : Node} {kvs : List (Value × Value)}
    {a : α} {j j' : Nat} (hn : d.Shows n (.map kvs))
    (h : d.record depth path expected n start field finish j = .ok (a, j')) :
    ∃ fields s, List.Forall₂ Named kvs fields ∧ P fields s ∧ finish s = .ok a := by
  obtain ⟨m, tag, pairs, i, i', hnode, hpairs⟩ := hn.mapping
  obtain ⟨n', j₁, hn', h⟩ := bind_ok.mp h
  obtain rfl := resolve_unique hnode hn'
  replace h := placing_ok.mp h
  cases depth with
  | zero => simp [refuse] at h
  | succ k =>
      obtain ⟨s, j₂, hs, h⟩ := bind_ok.mp h
      obtain ⟨fields, hfields, hP⟩ := foldlM_named hstep hpairs hstart hs
      exact ⟨fields, s, hfields, hP, (settle_ok.mp h).1⟩

/-- Where a mapping is seen, nothing is taken for absent. -/
theorem optional_named {α : Type} {read : Node → Reading α} {n : Node}
    {kvs : List (Value × Value)} {o : Option α} {j j' : Nat} (hn : d.Shows n (.map kvs))
    (h : d.optional n read j = .ok (o, j')) :
    ∃ n' a j₁, d.Shows n' (.map kvs) ∧ read n' j₁ = .ok (a, j') ∧ o = some a := by
  obtain ⟨m, tag, pairs, i, i', hnode, -⟩ := hn.mapping
  obtain ⟨n', j₁, hn', h⟩ := bind_ok.mp h
  obtain rfl := resolve_unique hnode hn'
  obtain ⟨a, ha, rfl⟩ := map_ok.mp h
  exact ⟨_, a, j₁, hn.resolved hn' rfl, ha, rfl⟩

/-- Where a sequence stands, its items are read one by one. -/
theorem items_of_sequence {α : Type} {read : Nat → Path → Node → Reading α} {n : Node} {m : Mark}
    {tag : Option TagText} {ns : List Node} {depth : Nat} {path : Path} {expected : String}
    {as : List α} {i i' j j' : Nat} (hn : d.resolve n i = .ok (.sequence m tag ns, i'))
    (h : d.items depth path expected n read j = .ok (as, j')) :
    List.Forall₂ (fun n a => ∃ k path i i', read k path n i = .ok (a, i')) ns as := by
  obtain ⟨n', j₁, hn', h⟩ := bind_ok.mp h
  obtain rfl := resolve_unique hn hn'
  replace h := placing_ok.mp h
  cases depth with
  | zero => simp [refuse] at h
  | succ k =>
      rw [← List.zipIdx_map_fst 0 ns, List.forall₂_map_left_iff]
      refine (reads_of_mapM h).imp ?_
      rintro p a ⟨i, i', ha⟩
      exact ⟨_, _, i, i', ha⟩

end

/-! ## References -/

theorem extraOf_ok {fields : ExtraFields} {extra : Dict Value} (h : extraOf fields = .ok extra) :
    extra = Dict.ofList fields := by
  unfold extraOf at h
  split at h
  · cases h
  · exact (Except.ok.inj h).symm

/-- A field that is read is an extra field unless it has one of the names. -/
theorem filter_snoc (names : List String) (fields : ExtraFields) (name : String) (v : Value) :
    (fields ++ [(name, v)]).filter (fun f => f.1 ∉ names)
      = fields.filter (fun f => f.1 ∉ names) ++ if name ∈ names then [] else [(name, v)] := by
  rw [List.filter_append]
  by_cases h : name ∈ names <;> simp [h]

/-- The extra fields of a reference that is being read, once so many fields have been met. -/
def RefDraft.Has (fields : ExtraFields) (s : RefDraft) : Prop :=
  s.extra = fields.filter fun f => f.1 ∉ refNames

theorem RefDraft.Has.field {d : Document} {fields : ExtraFields} {s s' : RefDraft}
    {name : String} {k : Nat} {path : Path} {n : Node} {v : Value} {j j' : Nat}
    (hs : s.Has fields) (h : RefDraft.field d s name k path n j = .ok (s', j'))
    (hn : d.Shows n v) : s'.Has (fields ++ [(name, v)]) := by
  unfold Has
  rw [filter_snoc, ← hs]
  by_cases hname : name ∈ refNames
  · rw [if_pos hname, List.append_nil]
    simp only [refNames, List.mem_cons, List.not_mem_nil, or_false] at hname
    rcases hname with rfl | rfl
    all_goals
      obtain ⟨value, j₁, -, h⟩ := bind_ok.mp h
      obtain ⟨rfl, -⟩ := pure_ok.mp h
      rfl
  · rw [if_neg hname]
    rw [RefDraft.field_extra hname] at h
    obtain ⟨w, j₁, hw, h⟩ := bind_ok.mp h
    obtain ⟨rfl, -⟩ := pure_ok.mp h
    rw [(shows_of_value hw).unique hn]

theorem kept_of_readRef {d : Document} {depth : Nat} {path : Path} {n : Node}
    {kvs : List (Value × Value)} {r : SecretKeyRef} {j j' : Nat} (hn : d.Shows n (.map kvs))
    (h : readRef d depth path n j = .ok (r, j')) : Kept refNames kvs r.extra := by
  obtain ⟨fields, s, hfields, hs, hfinish⟩ := record_named (P := fun fields s => s.Has fields)
    rfl (fun _ _ _ _ _ _ _ _ _ _ hs h hn => hs.field h hn) hn h
  refine ⟨fields, hfields, ?_⟩
  rw [extraOf_ok (RefDraft.finish_ok hfinish), hs]

/-! ## Entries -/

/-- A reference that is written as a mapping is there, with what it keeps of it. -/
def Refers (name : String) (fields : ExtraFields) (ref : Option (Option SecretKeyRef)) : Prop :=
  ∀ kvs, (name, .map kvs) ∈ fields → ∃ r, ref = some (some r) ∧ Kept refNames kvs r.extra

/-- What an entry that is being read has, once so many fields have been met. -/
structure EntryDraft.Has (fields : ExtraFields) (s : EntryDraft) : Prop where
  extra : s.extra = fields.filter fun f => f.1 ∉ entryNames
  username : Refers "usernameSecret" fields s.usernameSecret
  password : Refers "passwordSecret" fields s.passwordSecret

theorem Refers.other {name other : String} {fields : ExtraFields}
    {ref : Option (Option SecretKeyRef)} (h : Refers name fields ref) (hne : other ≠ name)
    (v : Value) : Refers name (fields ++ [(other, v)]) ref := by
  intro kvs hkvs
  rcases List.mem_append.mp hkvs with hkvs | hkvs
  · exact h kvs hkvs
  · cases List.mem_singleton.mp hkvs
    exact absurd rfl hne

/-- A reference is read once: there was none before, so this is it. -/
theorem Refers.once {d : Document} {name : String} {fields : ExtraFields}
    {ref ref' : Option (Option SecretKeyRef)} {k : Nat} {path : Path} {n : Node} {v : Value}
    {j j' : Nat} (h : Refers name fields ref)
    (hread : once name ref (d.optional n (readRef d k path)) j = .ok (ref', j'))
    (hn : d.Shows n v) : Refers name (fields ++ [(name, v)]) ref' := by
  cases ref with
  | some _ => simp [RepoList.once, refuse] at hread
  | none =>
      obtain ⟨o, ho, rfl⟩ := map_ok.mp hread
      intro kvs hkvs
      rcases List.mem_append.mp hkvs with hkvs | hkvs
      · obtain ⟨r, hr, -⟩ := h kvs hkvs
        cases hr
      · cases List.mem_singleton.mp hkvs
        obtain ⟨n', r, j₁, hn', hr, rfl⟩ := optional_named hn ho
        exact ⟨r, rfl, kept_of_readRef hn' hr⟩

theorem EntryDraft.Has.field {d : Document} {fields : ExtraFields} {s s' : EntryDraft}
    {name : String} {k : Nat} {path : Path} {n : Node} {v : Value} {j j' : Nat}
    (hs : s.Has fields) (h : EntryDraft.field d s name k path n j = .ok (s', j'))
    (hn : d.Shows n v) : s'.Has (fields ++ [(name, v)]) := by
  have hextra := filter_snoc entryNames fields name v
  rw [← hs.extra] at hextra
  by_cases hname : name ∈ entryNames
  · rw [if_pos hname, List.append_nil] at hextra
    simp only [entryNames, List.mem_cons, List.not_mem_nil, or_false] at hname
    rcases hname with rfl | rfl | rfl
    all_goals
      obtain ⟨value, j₁, hvalue, h⟩ := bind_ok.mp h
      obtain ⟨rfl, -⟩ := pure_ok.mp h
    · exact ⟨hextra.symm, hs.username.other (by decide) v, hs.password.other (by decide) v⟩
    · exact ⟨hextra.symm, hs.username.once hvalue hn, hs.password.other (by decide) v⟩
    · exact ⟨hextra.symm, hs.username.other (by decide) v, hs.password.once hvalue hn⟩
  · rw [if_neg hname] at hextra
    rw [EntryDraft.field_extra hname] at h
    obtain ⟨w, j₁, hw, h⟩ := bind_ok.mp h
    obtain ⟨rfl, -⟩ := pure_ok.mp h
    rw [(shows_of_value hw).unique hn]
    simp only [entryNames, List.mem_cons, List.not_mem_nil, or_false, not_or] at hname
    exact ⟨hextra.symm, hs.username.other hname.2.1 v, hs.password.other hname.2.2 v⟩

/-- What an entry keeps of the mapping that it was read from. -/
structure Entry.Keeps (kvs : List (Value × Value)) (e : Entry) : Prop where
  extra : Kept entryNames kvs e.extra
  username : ∀ rkvs, (.str "usernameSecret", .map rkvs) ∈ kvs →
    ∃ r, e.usernameSecret = some r ∧ Kept refNames rkvs r.extra
  password : ∀ rkvs, (.str "passwordSecret", .map rkvs) ∈ kvs →
    ∃ r, e.passwordSecret = some r ∧ Kept refNames rkvs r.extra

theorem named_of_mem {kvs : List (Value × Value)} {fields : ExtraFields}
    (h : List.Forall₂ Named kvs fields) {s : String} {v : Value} (hkv : (.str s, v) ∈ kvs) :
    (s, v) ∈ fields := by
  induction h with
  | nil => cases hkv
  | @cons kv f _ _ hf _ ih =>
      rcases List.mem_cons.mp hkv with rfl | hkv
      · obtain ⟨name, w⟩ := f
        obtain ⟨rfl, hname⟩ := hf
        obtain rfl := hname s rfl
        exact List.mem_cons_self
      · exact List.mem_cons_of_mem _ (ih hkv)

theorem Refers.join {name : String} {kvs : List (Value × Value)} {fields : ExtraFields}
    {ref : Option (Option SecretKeyRef)} (h : Refers name fields ref)
    (hfields : List.Forall₂ Named kvs fields) (rkvs : List (Value × Value))
    (hr : (.str name, .map rkvs) ∈ kvs) :
    ∃ r, ref.join = some r ∧ Kept refNames rkvs r.extra := by
  obtain ⟨r, rfl, hkept⟩ := h rkvs (named_of_mem hfields hr)
  exact ⟨r, rfl, hkept⟩

theorem keeps_of_readEntry {d : Document} {depth : Nat} {path : Path} {n : Node}
    {kvs : List (Value × Value)} {e : Entry} {j j' : Nat} (hn : d.Shows n (.map kvs))
    (h : readEntry d depth path n j = .ok (e, j')) : e.Keeps kvs := by
  have hstart : EntryDraft.Has [] ⟨none, none, none, []⟩ :=
    ⟨rfl, fun _ h => absurd h List.not_mem_nil, fun _ h => absurd h List.not_mem_nil⟩
  obtain ⟨fields, s, hfields, hs, hfinish⟩ := record_named (P := fun fields s => s.Has fields)
    hstart (fun _ _ _ _ _ _ _ _ _ _ hs h hn => hs.field h hn) hn h
  obtain ⟨hextra, husername, hpassword⟩ := EntryDraft.finish_ok hfinish
  refine ⟨⟨fields, hfields, ?_⟩, ?_, ?_⟩
  · rw [extraOf_ok hextra, hs.extra]
  · rw [husername]
    exact hs.username.join hfields
  · rw [hpassword]
    exact hs.password.join hfields

/-! ## Lists -/

/-- The entries of a text, beside the mappings that are seen in it. -/
theorem keeps_of_decode {text : String} {es : List Entry} {vs : List (List (Value × Value))}
    (hblank : Text.isBlankText text = false) (h : decode text = .ok es)
    (hview : view text = .ok (.seq (vs.map .map))) :
    List.Forall₂ (fun kvs e => e.Keeps kvs) vs es := by
  unfold decode at h
  rw [hblank] at h
  obtain ⟨⟨j, hread⟩, -⟩ := whole_ok.mp h
  obtain ⟨⟨i, hroot⟩, -⟩ := whole_ok.mp hview
  obtain ⟨m, tag, ns, i₁, i₂, hnode, hns⟩ :=
    Shows.sequence (d := .ofString text) ⟨depthLimit, .root, 0, i, hroot⟩
  obtain ⟨o, j₁, ho, hread⟩ := bind_ok.mp hread
  obtain ⟨rfl, rfl⟩ := pure_ok.mp hread
  obtain ⟨n', j₂, hn', ho⟩ := bind_ok.mp ho
  obtain rfl := resolve_unique hnode hn'
  obtain ⟨as, has, rfl⟩ := map_ok.mp ho
  have hself : (Document.ofString text).resolve (.sequence m tag ns) 0
      = .ok (.sequence m tag ns, 0) := rfl
  have hitems := items_of_sequence hself has
  have hall : List.Forall₂ (fun kvs e => ∃ n, (Document.ofString text).Shows n (.map kvs) ∧
      ∃ k path i i', readEntry (Document.ofString text) k path n i = .ok (e, i')) vs as :=
    List.forall₂_map_left_iff.mp (forall₂_of_common hns hitems)
  refine hall.imp ?_
  rintro kvs e ⟨n, hn, k, path, i, i', he⟩
  exact keeps_of_readEntry hn he

end CredRegistry.RepoList
