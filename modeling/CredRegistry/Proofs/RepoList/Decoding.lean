import CredRegistry.Proofs.RepoList.Value

/-!
# What `decode` reads

Two things about the reader of the list.

`readEntries_of_value`: a document that holds the value a list is written as is read as
that list. The reader for any value and the reader for entries walk over the same nodes,
so the first tells what every step of the second meets, alias or not (`fieldStep_of_value`).

`proper_of_decode`: whatever is read is proper. The drafts keep `Unmixed` from field to
field, since a managed name never reaches the extra fields, and the check for keys that
stand twice is made in the end.
-/

namespace CredRegistry.RepoList

open CredRegistry.Yaml
open Yaml.Reading Yaml.Document

/-! ## From values to typed data -/

/-- Take in an entry of a mapping as a field. -/
def fieldStep {σ : Type} (d : Document) (k : Nat) (path : Path)
    (field : σ → String → Nat → Path → Node → Reading σ) (s : σ) (p : Node × Node) :
    Reading σ := do
  let name ← d.text path "field identifier" p.1
  field s name k (valuePath path p.1) p.2

theorem record_of_mapping {σ α : Type} {d : Document} {k : Nat} {path : Path}
    {expected : String} {n : Node} {m : Mark} {tag : Option TagText}
    {pairs : List (Node × Node)} {start s : σ}
    {field : σ → String → Nat → Path → Node → Reading σ} {finish : σ → Except DataFault α}
    {a : α} {j j₁ j' : Nat} (hn : d.resolve n j = .ok (.mapping m tag pairs, j₁))
    (hfields : (pairs.foldlM (fieldStep d k path field) start) j₁ = .ok (s, j'))
    (hfinish : (finish s).toOption = some a) :
    d.record (k + 1) path expected n start field finish j = .ok (a, j') := by
  unfold record
  refine bind_ok.mpr ⟨_, j₁, hn, placing_ok.mpr (bind_ok.mpr ⟨s, j', hfields, ?_⟩)⟩
  refine settle_ok.mpr ⟨?_, rfl⟩
  cases hf : finish s with
  | error e => simp [hf, Except.toOption] at hfinish
  | ok b =>
      rw [hf] at hfinish
      cases hfinish
      rfl

theorem once_of_isNone {α : Type} {name : String} {current : Option α} {read : Reading α}
    {j j' : Nat} {a : α} (h : current.isNone = true) (hread : read j = .ok (a, j')) :
    once name current read j = .ok (some a, j') := by
  cases current with
  | none => exact map_ok.mpr ⟨a, hread, rfl⟩
  | some b => cases h

theorem RefDraft.field_extra {d : Document} {r : RefDraft} {name : String} {k : Nat}
    {path : Path} {n : Node} (h : name ∉ refNames) :
    RefDraft.field d r name k path n =
      (d.value k path n >>= fun v => pure { r with extra := r.extra ++ [(name, v)] }) := by
  simp only [refNames, List.mem_cons, List.not_mem_nil, or_false, not_or] at h
  unfold RefDraft.field
  split
  · exact absurd rfl h.1
  · exact absurd rfl h.2
  · rfl

theorem RefDraft.fieldStep_of_value {d : Document} {k : Nat} {path : Path} {p : Node × Node}
    {c : Value × Value} {r r' : RefDraft} {j j' : Nat}
    (hc : d.entryValue k path p j = .ok (c, j')) (ht : r.take c = some r') :
    fieldStep d k path (RefDraft.field d) r p j = .ok (r', j') := by
  obtain ⟨key, j₁, hkey, hc⟩ := bind_ok.mp hc
  obtain ⟨val, j₂, hval, hc⟩ := bind_ok.mp hc
  obtain ⟨rfl, rfl⟩ := pure_ok.mp hc
  unfold RefDraft.take at ht
  split at ht
  next s heq =>
    cases heq
    obtain ⟨hnone, ht⟩ := Option.ite_none_right_eq_some.mp ht
    cases ht
    refine bind_ok.mpr ⟨_, j₁, text_of_value hkey, ?_⟩
    exact bind_ok.mpr ⟨_, _, once_of_isNone hnone (text_of_value hval), rfl⟩
  next s heq =>
    cases heq
    obtain ⟨hnone, ht⟩ := Option.ite_none_right_eq_some.mp ht
    cases ht
    refine bind_ok.mpr ⟨_, j₁, text_of_value hkey, ?_⟩
    exact bind_ok.mpr ⟨_, _, once_of_isNone hnone (text_of_value hval), rfl⟩
  next name v _ _ heq =>
    cases heq
    obtain ⟨hname, ht⟩ := Option.ite_none_left_eq_some.mp ht
    cases ht
    refine bind_ok.mpr ⟨_, j₁, text_of_value hkey, ?_⟩
    rw [RefDraft.field_extra hname]
    exact bind_ok.mpr ⟨_, _, hval, rfl⟩
  next => cases ht

theorem readRef_of_value {d : Document} {depth : Nat} {path : Path} {n : Node} {v : Value}
    {r : SecretKeyRef} {j j' : Nat} (hv : d.value depth path n j = .ok (v, j'))
    (hr : SecretKeyRef.ofValue? v = some r) :
    d.optional n (readRef d depth path) j = .ok (some r, j') := by
  obtain ⟨kvs, rfl⟩ : ∃ kvs, v = .map kvs := by
    unfold SecretKeyRef.ofValue? at hr
    split at hr
    next kvs => exact ⟨kvs, rfl⟩
    next => cases hr
  obtain ⟨m, tag, pairs, k, j₁, rfl, hn, hkvs⟩ := mapping_of_value hv
  obtain ⟨s, hs, hfinish⟩ := Option.bind_eq_some_iff.mp hr
  have hfields : (pairs.foldlM (fieldStep d k path (RefDraft.field d)) ⟨none, none, []⟩) j₁
      = .ok (s, j') := by
    refine foldlM_of_mapM ?_ hkvs hs
    exact fun _ _ _ _ _ _ hc ht => RefDraft.fieldStep_of_value hc ht
  refine bind_ok.mpr ⟨_, j₁, hn, map_ok.mpr ⟨r, ?_, rfl⟩⟩
  exact record_of_mapping rfl hfields hfinish

theorem EntryDraft.field_extra {d : Document} {e : EntryDraft} {name : String} {k : Nat}
    {path : Path} {n : Node} (h : name ∉ entryNames) :
    EntryDraft.field d e name k path n =
      (d.value k path n >>= fun v => pure { e with extra := e.extra ++ [(name, v)] }) := by
  simp only [entryNames, List.mem_cons, List.not_mem_nil, or_false, not_or] at h
  unfold EntryDraft.field
  split
  · exact absurd rfl h.1
  · exact absurd rfl h.2.1
  · exact absurd rfl h.2.2
  · rfl

theorem EntryDraft.fieldStep_of_value {d : Document} {k : Nat} {path : Path}
    {p : Node × Node} {c : Value × Value} {e e' : EntryDraft} {j j' : Nat}
    (hc : d.entryValue k path p j = .ok (c, j')) (ht : e.take c = some e') :
    fieldStep d k path (EntryDraft.field d) e p j = .ok (e', j') := by
  obtain ⟨key, j₁, hkey, hc⟩ := bind_ok.mp hc
  obtain ⟨val, j₂, hval, hc⟩ := bind_ok.mp hc
  obtain ⟨rfl, rfl⟩ := pure_ok.mp hc
  unfold EntryDraft.take at ht
  split at ht
  next s heq =>
    cases heq
    obtain ⟨hnone, ht⟩ := Option.ite_none_right_eq_some.mp ht
    cases ht
    refine bind_ok.mpr ⟨_, j₁, text_of_value hkey, ?_⟩
    exact bind_ok.mpr ⟨_, _, once_of_isNone hnone (text_of_value hval), rfl⟩
  next v heq =>
    cases heq
    obtain ⟨hnone, ht⟩ := Option.ite_none_right_eq_some.mp ht
    obtain ⟨r, hr, rfl⟩ := Option.map_eq_some_iff.mp ht
    refine bind_ok.mpr ⟨_, j₁, text_of_value hkey, ?_⟩
    exact bind_ok.mpr ⟨_, _, once_of_isNone hnone (readRef_of_value hval hr), rfl⟩
  next v heq =>
    cases heq
    obtain ⟨hnone, ht⟩ := Option.ite_none_right_eq_some.mp ht
    obtain ⟨r, hr, rfl⟩ := Option.map_eq_some_iff.mp ht
    refine bind_ok.mpr ⟨_, j₁, text_of_value hkey, ?_⟩
    exact bind_ok.mpr ⟨_, _, once_of_isNone hnone (readRef_of_value hval hr), rfl⟩
  next name v _ _ _ heq =>
    cases heq
    obtain ⟨hname, ht⟩ := Option.ite_none_left_eq_some.mp ht
    cases ht
    refine bind_ok.mpr ⟨_, j₁, text_of_value hkey, ?_⟩
    rw [EntryDraft.field_extra hname]
    exact bind_ok.mpr ⟨_, _, hval, rfl⟩
  next => cases ht

theorem readEntry_of_value {d : Document} {depth : Nat} {path : Path} {n : Node} {v : Value}
    {e : Entry} {j j' : Nat} (hv : d.value depth path n j = .ok (v, j'))
    (he : Entry.ofValue? v = some e) : readEntry d depth path n j = .ok (e, j') := by
  obtain ⟨kvs, rfl⟩ : ∃ kvs, v = .map kvs := by
    unfold Entry.ofValue? at he
    split at he
    next kvs => exact ⟨kvs, rfl⟩
    next => cases he
  obtain ⟨m, tag, pairs, k, j₁, rfl, hn, hkvs⟩ := mapping_of_value hv
  obtain ⟨s, hs, hfinish⟩ := Option.bind_eq_some_iff.mp he
  have hfields :
      (pairs.foldlM (fieldStep d k path (EntryDraft.field d)) ⟨none, none, none, []⟩) j₁
        = .ok (s, j') := by
    refine foldlM_of_mapM ?_ hkvs hs
    exact fun _ _ _ _ _ _ hc ht => EntryDraft.fieldStep_of_value hc ht
  exact record_of_mapping hn hfields hfinish

def listValue (entries : List Entry) : Value := .seq (entries.map Entry.toValue)

theorem readEntries_of_value {d : Document} {es : List Entry} {j : Nat}
    (hes : ∀ e ∈ es, e.Proper)
    (hv : d.value depthLimit .root d.root 0 = .ok (listValue es, j)) :
    readEntries d 0 = .ok (es, j) := by
  obtain ⟨m, tag, items, k, j₁, hk, hn, hvs⟩ := sequence_of_value hv
  refine bind_ok.mpr ⟨some es, j, ?_, rfl⟩
  refine bind_ok.mpr ⟨_, j₁, hn, map_ok.mpr ⟨es, ?_, rfl⟩⟩
  rw [hk]
  refine bind_ok.mpr ⟨_, j₁, rfl, placing_ok.mpr ?_⟩
  refine mapM_of_mapM (fun p j j' e he hp => ?_) hvs
  exact readEntry_of_value hp (Entry.ofValue?_toValue (hes e he))

/-! ## What a document can bring in -/

theorem forall_of_optional {α : Type} {P : α → Prop} {d : Document} {n : Node}
    {read : Node → Reading α} (hread : ∀ n a j j', read n j = .ok (a, j') → P a)
    {o : Option α} {j j' : Nat} (h : d.optional n read j = .ok (o, j')) : ∀ a ∈ o, P a := by
  obtain ⟨n', j₁, -, h⟩ := bind_ok.mp h
  intro a ha
  cases n' with
  | scalar m tag text plain =>
      cases habsent : scalarIsAbsent tag text plain with
      | error fault => simp [habsent, refuse_ok] at h
      | ok absent =>
          simp only [habsent] at h
          cases absent with
          | true =>
              rw [← (pure_ok.mp h).1] at ha
              cases ha
          | false =>
              obtain ⟨b, hb, rfl⟩ := map_ok.mp h
              cases ha
              exact hread _ _ _ _ hb
  | void m =>
      rw [← (pure_ok.mp h).1] at ha
      cases ha
  | _ =>
      obtain ⟨b, hb, rfl⟩ := map_ok.mp h
      cases ha
      exact hread _ _ _ _ hb

theorem forall_of_items {α : Type} {P : α → Prop} {d : Document}
    {read : Nat → Path → Node → Reading α}
    (hread : ∀ k path n a j j', read k path n j = .ok (a, j') → P a)
    {depth : Nat} {path : Path} {expected : String} {n : Node} {as : List α} {j j' : Nat}
    (h : d.items depth path expected n read j = .ok (as, j')) : ∀ a ∈ as, P a := by
  obtain ⟨n', j₁, -, h⟩ := bind_ok.mp h
  cases n' with
  | scalar m tag text plain =>
      simp only at h
      split at h
      · rw [← (pure_ok.mp h).1]
        simp
      · simp [refuse] at h
  | sequence m tag items =>
      replace h := placing_ok.mp h
      cases depth with
      | zero => simp [refuse] at h
      | succ k => exact forall_of_mapM (fun _ _ _ _ => hread _ _ _ _ _ _) h
  | mapping m tag pairs => simp [refuse] at h
  | _ =>
      rw [← (pure_ok.mp h).1]
      simp

theorem record_keeps {σ α : Type} {P : σ → Prop} {d : Document} {start : σ}
    {field : σ → String → Nat → Path → Node → Reading σ} {finish : σ → Except DataFault α}
    (hstart : P start)
    (hfield : ∀ s name k path n s' j j', P s → field s name k path n j = .ok (s', j') → P s')
    {depth : Nat} {path : Path} {expected : String} {n : Node} {a : α} {j j' : Nat}
    (h : d.record depth path expected n start field finish j = .ok (a, j')) :
    ∃ s, P s ∧ finish s = .ok a := by
  obtain ⟨n', j₁, -, h⟩ := bind_ok.mp h
  cases n' with
  | scalar m tag text plain =>
      replace h := placing_ok.mp h
      split at h
      · exact ⟨start, hstart, (settle_ok.mp h).1⟩
      · simp [refuse] at h
  | sequence m tag items => simp [refuse] at h
  | mapping m tag pairs =>
      replace h := placing_ok.mp h
      cases depth with
      | zero => simp [refuse] at h
      | succ k =>
          obtain ⟨s, j₂, hs, h⟩ := bind_ok.mp h
          refine ⟨s, foldlM_keeps (fun p s s' j j' hP hstep => ?_) hstart hs, (settle_ok.mp h).1⟩
          obtain ⟨name, j₃, -, hstep⟩ := bind_ok.mp hstep
          exact hfield _ _ _ _ _ _ _ _ hP hstep
  | _ => exact ⟨start, hstart, (settle_ok.mp h).1⟩

/-- The extra fields met so far have no managed name and no tag. -/
def Unmixed (names : List String) (fields : ExtraFields) : Prop :=
  ∀ f ∈ fields, f.1 ∉ names ∧ f.2.isUntagged = true

theorem Unmixed.append {names : List String} {fields : ExtraFields} {name : String}
    {v : Value} (h : Unmixed names fields) (hname : name ∉ names)
    (hv : v.isUntagged = true) : Unmixed names (fields ++ [(name, v)]) := by
  intro f hf
  rcases List.mem_append.mp hf with hf | hf
  · exact h f hf
  · rw [List.mem_singleton.mp hf]
    exact ⟨hname, hv⟩

theorem RefDraft.unmixed_field {d : Document} {s s' : RefDraft} {name : String} {k : Nat}
    {path : Path} {n : Node} {j j' : Nat} (hs : Unmixed refNames s.extra)
    (h : RefDraft.field d s name k path n j = .ok (s', j')) : Unmixed refNames s'.extra := by
  by_cases hname : name ∈ refNames
  · simp only [refNames, List.mem_cons, List.not_mem_nil, or_false] at hname
    rcases hname with rfl | rfl
    all_goals
      obtain ⟨value, j₁, -, h⟩ := bind_ok.mp h
      obtain ⟨rfl, -⟩ := pure_ok.mp h
      exact hs
  · rw [RefDraft.field_extra hname] at h
    obtain ⟨v, j₁, hv, h⟩ := bind_ok.mp h
    obtain ⟨rfl, -⟩ := pure_ok.mp h
    exact hs.append hname (isUntagged_of_value hv)

theorem RefDraft.finish_ok {s : RefDraft} {r : SecretKeyRef} (h : s.finish = .ok r) :
    extraOf s.extra = .ok r.extra := by
  unfold finish at h
  cases hextra : extraOf s.extra with
  | error e => simp [hextra, bind, Except.bind] at h
  | ok extra =>
      rw [hextra] at h
      cases h
      rfl

theorem EntryDraft.finish_ok {s : EntryDraft} {e : Entry} (h : s.finish = .ok e) :
    extraOf s.extra = .ok e.extra ∧ e.usernameSecret = s.usernameSecret.join ∧
      e.passwordSecret = s.passwordSecret.join := by
  unfold finish at h
  cases hextra : extraOf s.extra with
  | error e => simp [hextra, bind, Except.bind] at h
  | ok extra =>
      rw [hextra] at h
      cases h
      exact ⟨rfl, rfl, rfl⟩

theorem proper_of_readRef {d : Document} {depth : Nat} {path : Path} {n : Node}
    {r : SecretKeyRef} {j j' : Nat} (h : readRef d depth path n j = .ok (r, j')) :
    r.Proper := by
  obtain ⟨s, hs, hfinish⟩ := record_keeps (P := fun s => Unmixed refNames s.extra)
    (by simp [Unmixed]) (fun _ _ _ _ _ _ _ _ => RefDraft.unmixed_field) h
  exact carried_of_extraOf (RefDraft.finish_ok hfinish) hs

/-- What holds of an entry while it is being read. -/
structure EntryDraft.Proper (s : EntryDraft) : Prop where
  extra : Unmixed entryNames s.extra
  username : ∀ r ∈ s.usernameSecret.join, r.Proper
  password : ∀ r ∈ s.passwordSecret.join, r.Proper

theorem proper_of_once {d : Document} {current o : Option (Option SecretKeyRef)}
    {name : String} {k : Nat} {path : Path} {n : Node} {j j' : Nat}
    (h : once name current (d.optional n (readRef d k path)) j = .ok (o, j')) :
    ∀ r ∈ o.join, r.Proper := by
  cases current with
  | some _ => simp [once, refuse] at h
  | none =>
      obtain ⟨o', ho', rfl⟩ := map_ok.mp h
      exact forall_of_optional (fun _ _ _ _ => proper_of_readRef) ho'

theorem EntryDraft.Proper.field {d : Document} {s s' : EntryDraft} {name : String} {k : Nat}
    {path : Path} {n : Node} {j j' : Nat} (hs : s.Proper)
    (h : EntryDraft.field d s name k path n j = .ok (s', j')) : s'.Proper := by
  by_cases hname : name ∈ entryNames
  · simp only [entryNames, List.mem_cons, List.not_mem_nil, or_false] at hname
    rcases hname with rfl | rfl | rfl
    all_goals
      obtain ⟨value, j₁, hvalue, h⟩ := bind_ok.mp h
      obtain ⟨rfl, -⟩ := pure_ok.mp h
    · exact { hs with }
    · exact { hs with username := proper_of_once hvalue }
    · exact { hs with password := proper_of_once hvalue }
  · rw [EntryDraft.field_extra hname] at h
    obtain ⟨v, j₁, hv, h⟩ := bind_ok.mp h
    obtain ⟨rfl, -⟩ := pure_ok.mp h
    exact { hs with extra := hs.extra.append hname (isUntagged_of_value hv) }

theorem proper_of_readEntry {d : Document} {depth : Nat} {path : Path} {n : Node}
    {e : Entry} {j j' : Nat} (h : readEntry d depth path n j = .ok (e, j')) : e.Proper := by
  obtain ⟨s, hs, hfinish⟩ := record_keeps (P := EntryDraft.Proper)
    ⟨by simp [Unmixed], by simp, by simp⟩ (fun _ _ _ _ _ _ _ _ => EntryDraft.Proper.field) h
  obtain ⟨hextra, husername, hpassword⟩ := EntryDraft.finish_ok hfinish
  exact ⟨husername ▸ hs.username, hpassword ▸ hs.password, carried_of_extraOf hextra hs.extra⟩

/-- Any entry that a text holds is proper. -/
theorem proper_of_decode {text : String} {es : List Entry} (h : decode text = .ok es) :
    ∀ e ∈ es, e.Proper := by
  unfold decode at h
  split at h
  · cases h
    simp
  · obtain ⟨⟨j, hread⟩, -, -⟩ := whole_ok.mp h
    obtain ⟨o, j₁, ho, hread⟩ := bind_ok.mp hread
    obtain ⟨rfl, rfl⟩ := pure_ok.mp hread
    have hall : ∀ as ∈ o, ∀ e ∈ as, e.Proper :=
      forall_of_optional (fun _ _ _ _ => forall_of_items fun _ _ _ _ _ _ => proper_of_readEntry)
        ho
    cases o with
    | none => simp
    | some as => exact hall as rfl

end CredRegistry.RepoList
