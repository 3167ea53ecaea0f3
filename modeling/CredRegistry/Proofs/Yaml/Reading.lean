import CredRegistry.Proofs.Yaml.Writing
import CredRegistry.Yaml.Reading
import Mathlib.Control.Monad.Basic

/-!
# What a successful reading says

`Reading` threads the number of aliases followed, so an inversion lemma names that
number before and after each part (`bind_ok`, `mapM_cons_ok`). `value_cases` inverts
`Document.value` once and for all: whoever knows the value of a node knows what node was
met. The readers for typed data (`text_of_value`) are derived from it, and so is
`isUntagged_of_value`: no value that was read holds a tag.

`ReadsBack` is what is asked of writer and reader together.
-/

namespace CredRegistry.Yaml

def read (text : String) : Except Error Value :=
  let d := Document.ofString text
  d.whole (d.value depthLimit .root d.root)

/-- The text that is written for the value, if any is, holds that very value. -/
def ReadsBack (v : Value) : Prop := ∀ text, write v = .ok text → read text = .ok v

instance (v : Value) : Decidable (ReadsBack v) :=
  match h : write v with
  | .error e => .isTrue fun text ht => by rw [h] at ht; cases ht
  | .ok text =>
      decidable_of_iff (read text = .ok v)
        ⟨fun hread t ht => by rw [h] at ht; cases ht; exact hread, fun hback => hback text h⟩

/-! ## Successful readings -/

namespace Reading

variable {α β σ : Type}

theorem pure_ok {a b : α} {j j' : Nat} :
    (pure a : Reading α) j = .ok (b, j') ↔ a = b ∧ j = j' := by
  change Except.ok (a, j) = .ok (b, j') ↔ _
  simp

theorem bind_ok {r : Reading α} {f : α → Reading β} {j : Nat} {out : β × Nat} :
    (r >>= f) j = .ok out ↔ ∃ a j₁, r j = .ok (a, j₁) ∧ f a j₁ = .ok out := by
  change (r j >>= fun p => f p.1 p.2) = .ok out ↔ _
  cases h : r j with
  | error e => simp [bind, Except.bind]
  | ok p =>
      obtain ⟨a, j₁⟩ := p
      constructor
      · intro hf
        exact ⟨a, j₁, rfl, hf⟩
      · rintro ⟨_, _, hp, hf⟩
        cases hp
        exact hf

theorem map_ok {r : Reading α} {f : α → β} {j j' : Nat} {b : β} :
    (f <$> r) j = .ok (b, j') ↔ ∃ a, r j = .ok (a, j') ∧ f a = b := by
  rw [map_eq_pure_bind, bind_ok]
  simp only [pure_ok]
  constructor
  · rintro ⟨a, j₁, ha, rfl, rfl⟩
    exact ⟨a, ha, rfl⟩
  · rintro ⟨a, ha, rfl⟩
    exact ⟨a, j', ha, rfl, rfl⟩

theorem refuse_ok {e : Error} {j : Nat} {out : α × Nat} :
    (refuse e : Reading α) j = .ok out ↔ False := by
  simp [refuse]

theorem settle_ok {r : Except DataFault α} {j j' : Nat} {a : α} :
    settle r j = .ok (a, j') ↔ r = .ok a ∧ j = j' := by
  cases r with
  | error fault => simp [settle, refuse_ok]
  | ok b => simp [settle, pure_ok]

theorem placing_ok {path : Path} {mark : Mark} {r : Reading α} {j : Nat} {out : α × Nat} :
    placing path mark r j = .ok out ↔ r j = .ok out := by
  unfold placing
  cases h : r j <;> simp

theorem lift_ok {x : Except Error α} {j j' : Nat} {a : α} :
    (liftM x : Reading α) j = .ok (a, j') ↔ x = .ok a ∧ j = j' := by
  cases x <;>
    simp [liftM, monadLift, MonadLift.monadLift, StateT.lift, bind, Except.bind, pure,
      Except.pure]

theorem mapM_cons_ok {f : α → Reading β} {x : α} {xs : List α} {j j' : Nat} {out : List β} :
    ((x :: xs).mapM f) j = .ok (out, j') ↔
      ∃ y ys j₁, out = y :: ys ∧ f x j = .ok (y, j₁) ∧ (xs.mapM f) j₁ = .ok (ys, j') := by
  rw [List.mapM_cons, bind_ok]
  constructor
  · rintro ⟨y, j₁, hy, h⟩
    obtain ⟨ys, j₂, hys, h⟩ := bind_ok.mp h
    obtain ⟨rfl, rfl⟩ := pure_ok.mp h
    exact ⟨y, ys, j₁, rfl, hy, hys⟩
  · rintro ⟨y, ys, j₁, rfl, hy, hys⟩
    exact ⟨y, j₁, hy, bind_ok.mpr ⟨ys, j', hys, rfl⟩⟩

/-- What holds of everything that may be read holds of a list that was read item by
item. -/
theorem forall_of_mapM {P : β → Prop} {f : α → Reading β}
    (hf : ∀ x y j j', f x j = .ok (y, j') → P y) :
    ∀ {xs : List α} {ys : List β} {j j' : Nat}, (xs.mapM f) j = .ok (ys, j') → ∀ y ∈ ys, P y
  | [], _, _, _, h => by
      obtain ⟨rfl, -⟩ := pure_ok.mp h
      simp
  | x :: xs, _, j, _, h => by
      obtain ⟨y, ys, j₁, rfl, hy, hys⟩ := mapM_cons_ok.mp h
      intro z hz
      rcases List.mem_cons.mp hz with rfl | hz
      · exact hf _ _ _ _ hy
      · exact forall_of_mapM hf hys z hz

/-- Two ways of reading the same items: where the first gives `g y`, the second gives
`y`. -/
theorem mapM_of_mapM {γ : Type} {f : α → Reading γ} {f' : α → Reading β} {g : β → γ} :
    ∀ {xs : List α} {ys : List β} {j j' : Nat},
      (∀ x j j', ∀ y ∈ ys, f x j = .ok (g y, j') → f' x j = .ok (y, j')) →
      (xs.mapM f) j = .ok (ys.map g, j') → (xs.mapM f') j = .ok (ys, j')
  | [], ys, _, _, _, h => by
      obtain ⟨hnil, rfl⟩ := pure_ok.mp h
      rw [List.map_eq_nil_iff.mp hnil.symm]
      rfl
  | x :: xs, ys, j, _, hf, h => by
      obtain ⟨c, cs, j₁, hmap, hc, hcs⟩ := mapM_cons_ok.mp h
      obtain ⟨y, ys, rfl, rfl, rfl⟩ := List.map_eq_cons_iff.mp hmap
      refine mapM_cons_ok.mpr ⟨y, ys, j₁, rfl, hf x _ _ y (by simp) hc, ?_⟩
      exact mapM_of_mapM (fun x j j' y hy => hf x j j' y (List.mem_cons_of_mem _ hy)) hcs

theorem mapM_mono {f f' : α → Reading β}
    (hf : ∀ x j y j', f x j = .ok (y, j') → f' x j = .ok (y, j')) :
    ∀ {xs : List α} {ys : List β} {j j' : Nat},
      (xs.mapM f) j = .ok (ys, j') → (xs.mapM f') j = .ok (ys, j')
  | [], _, _, _, h => h
  | x :: xs, _, j, _, h => by
      obtain ⟨y, ys, j₁, rfl, hy, hys⟩ := mapM_cons_ok.mp h
      exact mapM_cons_ok.mpr ⟨y, ys, j₁, rfl, hf _ _ _ _ hy, mapM_mono hf hys⟩

/-- Reading the items one by one into a state succeeds when each of them can be read and
what they stand for can be taken in one by one. -/
theorem foldlM_of_mapM {γ : Type} {f : α → Reading γ} {step : σ → α → Reading σ}
    {take : σ → γ → Option σ}
    (hstep : ∀ x c s s' j j', f x j = .ok (c, j') → take s c = some s' →
      step s x j = .ok (s', j')) :
    ∀ {xs : List α} {cs : List γ} {s s' : σ} {j j' : Nat},
      (xs.mapM f) j = .ok (cs, j') → cs.foldlM take s = some s' →
        (xs.foldlM step s) j = .ok (s', j')
  | [], _, _, _, _, _, h, ht => by
      obtain ⟨rfl, rfl⟩ := pure_ok.mp h
      cases ht
      rfl
  | x :: xs, _, s, _, j, _, h, ht => by
      obtain ⟨c, cs, j₁, rfl, hc, hcs⟩ := mapM_cons_ok.mp h
      rw [List.foldlM_cons] at ht
      obtain ⟨t, hst, hts⟩ := Option.bind_eq_some_iff.mp ht
      rw [List.foldlM_cons]
      exact bind_ok.mpr ⟨t, j₁, hstep _ _ _ _ _ _ hc hst, foldlM_of_mapM hstep hcs hts⟩

theorem foldlM_keeps {P : σ → Prop} {step : σ → α → Reading σ}
    (hstep : ∀ x s s' j j', P s → step s x j = .ok (s', j') → P s') :
    ∀ {xs : List α} {s s' : σ} {j j' : Nat}, P s → (xs.foldlM step s) j = .ok (s', j') → P s'
  | [], _, _, _, _, hs, h => by
      obtain ⟨rfl, -⟩ := pure_ok.mp h
      exact hs
  | x :: xs, _, _, _, _, hs, h => by
      rw [List.foldlM_cons] at h
      obtain ⟨t, j₁, ht, h⟩ := bind_ok.mp h
      exact foldlM_keeps hstep (hstep _ _ _ _ _ hs ht) h

end Reading

/-! ## Scalars -/

theorem intFound?_ne_str {n : Int} {s : String} : intFound? n ≠ some (.str s) := by
  unfold intFound?
  split
  · simp
  · split <;> simp

theorem plainFound_str {cs : List Char} {s : String} (h : plainFound cs = .str s) :
    s = String.ofList cs := by
  unfold plainFound at h
  split at h
  · cases h
  · split at h
    · cases h
    · split at h
      next f hf =>
        subst h
        obtain ⟨n, -, hn⟩ := Option.bind_eq_some_iff.mp hf
        exact absurd hn intFound?_ne_str
      next =>
        split at h
        · cases h
        · cases h
          rfl

theorem scalarFound_str {tag : Option TagText} {text s : String} {plain : Bool}
    (h : scalarFound tag text plain = .ok (.str s)) : s = text := by
  have hplain (b : Bool) (hb : (if b then plainFound text.toList else .str text) = .str s) :
      s = text := by
    cases b with
    | true => rw [plainFound_str hb, String.ofList_toList]
    | false => exact (Found.str.inj hb).symm
  unfold scalarFound at h
  cases tag with
  | none => exact hplain plain (by simpa using h)
  | some t =>
      simp only at h
      split at h
      · cases hb : bool? text.toList <;> simp [hb] at h
      · split at h
        · cases hi : integer? text.toList with
          | none => simp [hi] at h
          | some n =>
              simp only [hi, Option.bind_some] at h
              cases hf : intFound? n with
              | none => simp [hf] at h
              | some f =>
                  simp only [hf, Except.ok.injEq] at h
                  subst h
                  exact absurd hf intFound?_ne_str
        · split at h
          · cases hf : floatText? text.toList <;> simp [hf] at h
          · split at h
            · cases hn : isNullText text.toList <;> simp [hn] at h
            · exact hplain _ (Except.ok.inj h)

/-- Is the node a scalar or a collection? -/
def Node.hasContent : Node → Bool
  | .scalar .. | .sequence .. | .mapping .. => true
  | _ => false

namespace Document

open Reading

theorem scalarValue_str {tag : Option TagText} {text s : String} {plain : Bool}
    (h : scalarValue tag text plain = .ok (.str s)) : s = text := by
  unfold scalarValue at h
  split at h
  · cases h
  · split at h <;> cases h
    exact scalarFound_str ‹_›

/-- Is the value neither a sequence, a mapping nor tagged? -/
def IsScalar (v : Value) : Prop := (scalarOf? v).isSome = true

theorem isScalar_of_scalarValue {tag : Option TagText} {text : String} {plain : Bool}
    {v : Value} (h : scalarValue tag text plain = .ok v) : IsScalar v := by
  unfold scalarValue at h
  split at h
  · cases h
  · split at h <;> cases h <;> rfl

/-! ## Values -/

/-- Read both sides of an entry of a mapping. -/
def entryValue (d : Document) (depth : Nat) (path : Path) (entry : Node × Node) :
    Reading (Value × Value) := do
  let key ← d.value depth path entry.1
  let val ← d.value depth (valuePath path entry.1) entry.2
  pure (key, val)

theorem value_cases {d : Document} {depth : Nat} {path : Path} {n : Node} {j j' : Nat}
    {v : Value} (h : d.value depth path n j = .ok (v, j')) :
    ∃ n' j₁, d.resolve n j = .ok (n', j₁) ∧
      ((∃ m tag text plain, n' = .scalar m tag text plain ∧ j₁ = j'
          ∧ scalarValue tag text plain = .ok v)
        ∨ (∃ m tag items k vs, n' = .sequence m tag items ∧ marksVariant tag = false
          ∧ depth = k + 1 ∧ v = .seq vs
          ∧ (items.zipIdx.mapM fun p => d.value k (path.index p.2) p.1) j₁ = .ok (vs, j'))
        ∨ (∃ m tag pairs k kvs, n' = .mapping m tag pairs ∧ marksVariant tag = false
          ∧ depth = k + 1 ∧ v = .map kvs
          ∧ (pairs.mapM (d.entryValue k path)) j₁ = .ok (kvs, j'))
        ∨ (n'.hasContent = false ∧ v = .null ∧ j₁ = j')) := by
  rw [value.eq_def] at h
  obtain ⟨n', j₁, hn, h⟩ := bind_ok.mp h
  refine ⟨n', j₁, hn, ?_⟩
  cases n' with
  | scalar m tag text plain =>
      obtain ⟨hv, hj⟩ := lift_ok.mp (placing_ok.mp h)
      exact .inl ⟨m, tag, text, plain, rfl, hj, hv⟩
  | sequence m tag items =>
      replace h := placing_ok.mp h
      by_cases ht : marksVariant tag = true
      · simp [ht, bind_ok, refuse_ok] at h
      · simp only [ht] at h
        cases depth with
        | zero => simp [refuse] at h
        | succ k =>
            obtain ⟨vs, j₂, hvs, h⟩ := bind_ok.mp h
            obtain ⟨rfl, rfl⟩ := pure_ok.mp h
            exact .inr (.inl ⟨m, tag, items, k, vs, rfl, Bool.eq_false_iff.mpr ht, rfl, rfl, hvs⟩)
  | mapping m tag pairs =>
      replace h := placing_ok.mp h
      by_cases ht : marksVariant tag = true
      · simp [ht, bind_ok, refuse_ok] at h
      · simp only [ht] at h
        cases depth with
        | zero => simp [refuse] at h
        | succ k =>
            obtain ⟨kvs, j₂, hkvs, h⟩ := bind_ok.mp h
            obtain ⟨rfl, rfl⟩ := pure_ok.mp h
            refine .inr (.inr (.inl ⟨m, tag, pairs, k, kvs, rfl, ?_, rfl, rfl, hkvs⟩))
            exact Bool.eq_false_iff.mpr ht
  | _ =>
      obtain ⟨rfl, rfl⟩ := pure_ok.mp h
      exact .inr (.inr (.inr ⟨rfl, rfl, rfl⟩))

theorem mapping_of_value {d : Document} {depth : Nat} {path : Path} {n : Node} {j j' : Nat}
    {kvs : List (Value × Value)} (h : d.value depth path n j = .ok (.map kvs, j')) :
    ∃ m tag pairs k j₁, depth = k + 1 ∧ d.resolve n j = .ok (.mapping m tag pairs, j₁)
      ∧ (pairs.mapM (d.entryValue k path)) j₁ = .ok (kvs, j') := by
  obtain ⟨n', j₁, hn, hv⟩ := value_cases h
  rcases hv with ⟨m, tag, text, plain, -, -, hs⟩ | ⟨_, _, _, _, _, -, -, -, hv, -⟩
    | ⟨m, tag, pairs, k, kvs', rfl, -, hk, hv, hkvs⟩ | ⟨-, hv, -⟩
  · exact absurd (isScalar_of_scalarValue hs) (by simp [IsScalar, scalarOf?])
  · cases hv
  · cases hv
    exact ⟨m, tag, pairs, k, j₁, hk, hn, hkvs⟩
  · cases hv

theorem sequence_of_value {d : Document} {depth : Nat} {path : Path} {n : Node} {j j' : Nat}
    {vs : List Value} (h : d.value depth path n j = .ok (.seq vs, j')) :
    ∃ m tag items k j₁, depth = k + 1 ∧ d.resolve n j = .ok (.sequence m tag items, j₁)
      ∧ (items.zipIdx.mapM fun p => d.value k (path.index p.2) p.1) j₁ = .ok (vs, j') := by
  obtain ⟨n', j₁, hn, hv⟩ := value_cases h
  rcases hv with ⟨m, tag, text, plain, -, -, hs⟩ | ⟨m, tag, items, k, vs', rfl, -, hk, hv, hvs⟩
    | ⟨_, _, _, _, _, -, -, -, hv, -⟩ | ⟨-, hv, -⟩
  · exact absurd (isScalar_of_scalarValue hs) (by simp [IsScalar, scalarOf?])
  · cases hv
    exact ⟨m, tag, items, k, j₁, hk, hn, hvs⟩
  · cases hv
  · cases hv

theorem text_of_value {d : Document} {depth : Nat} {path path' : Path} {expected : String}
    {n : Node} {j j' : Nat} {s : String} (h : d.value depth path n j = .ok (.str s, j')) :
    d.text path' expected n j = .ok (s, j') := by
  obtain ⟨n', j₁, hn, hv⟩ := value_cases h
  refine bind_ok.mpr ⟨n', j₁, hn, ?_⟩
  rcases hv with ⟨m, tag, text, plain, rfl, rfl, hs⟩ | ⟨_, _, _, _, _, -, -, -, hv, -⟩
    | ⟨_, _, _, _, _, -, -, -, hv, -⟩ | ⟨-, hv, -⟩
  · rw [scalarValue_str hs]
    rfl
  all_goals cases hv

/-- No value that is read holds a tag: a tag that would have to be kept is refused. -/
theorem isUntagged_of_value {d : Document} : ∀ {depth : Nat} {path : Path} {n : Node}
    {j j' : Nat} {v : Value}, d.value depth path n j = .ok (v, j') → v.isUntagged = true := by
  intro depth
  induction depth with
  | zero =>
      intro path n j j' v h
      obtain ⟨n', j₁, -, hv⟩ := value_cases h
      rcases hv with ⟨m, tag, text, plain, -, -, hs⟩ | ⟨_, _, _, _, _, -, -, hk, -, -⟩
        | ⟨_, _, _, _, _, -, -, hk, -, -⟩ | ⟨-, rfl, -⟩
      · have hscalar := isScalar_of_scalarValue hs
        cases v <;> first | rfl | simp [IsScalar, scalarOf?] at hscalar
      · cases hk
      · cases hk
      · rfl
  | succ depth ih =>
      intro path n j j' v h
      obtain ⟨n', j₁, -, hv⟩ := value_cases h
      rcases hv with ⟨m, tag, text, plain, -, -, hs⟩ | ⟨_, _, items, k, vs, -, -, hk, rfl, hvs⟩
        | ⟨_, _, pairs, k, kvs, -, -, hk, rfl, hkvs⟩ | ⟨-, rfl, -⟩
      · have hscalar := isScalar_of_scalarValue hs
        cases v <;> first | rfl | simp [IsScalar, scalarOf?] at hscalar
      · cases hk
        exact Value.itemsUntagged_iff.mpr (forall_of_mapM (fun _ _ _ _ => ih) hvs)
      · cases hk
        refine Value.pairsUntagged_iff.mpr (forall_of_mapM (fun p kv j j' hkv => ?_) hkvs)
        obtain ⟨key, j₂, hkey, hkv⟩ := bind_ok.mp hkv
        obtain ⟨val, j₃, hval, hkv⟩ := bind_ok.mp hkv
        obtain ⟨rfl, rfl⟩ := pure_ok.mp hkv
        exact ⟨ih hkey, ih hval⟩
      · rfl

/-- What a whole document was read as, it holds from its first node on. -/
theorem whole_ok {α : Type} {d : Document} {r : Reading α} {a : α} :
    d.whole r = .ok a ↔
      (∃ j, r 0 = .ok (a, j)) ∧ d.fault = none ∧ d.followed = false := by
  unfold whole outcome
  cases hr : r 0 with
  | error e => simp [Except.map, bind, Except.bind]
  | ok p =>
      obtain ⟨b, j⟩ := p
      cases hf : d.fault <;> cases hd : d.followed <;>
        simp [Except.map, bind, Except.bind]

end Document

end CredRegistry.Yaml
