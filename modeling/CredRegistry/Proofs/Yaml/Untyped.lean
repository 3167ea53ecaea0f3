import CredRegistry.Proofs.Yaml.Reading
import Mathlib.Data.List.Forall2

/-!
# Documents seen as plain YAML

`Document.tree` reads a node as whoever knows nothing of entries and fields: as `Document.value`
does, but a tag that marks a variant is kept around the value of its node. `parse` reads a whole
text that way and refuses a mapping that holds a key twice.

The typed readers meet the same nodes on other ways. What has been read as a value is seen as that
value (`tree_of_value`), and what is seen depends neither on the way to a node nor on how many
aliases have been followed before (`tree_unique`). So whatever a typed reader takes for the value
of a node is what `parse` sees there.
-/

namespace CredRegistry.Yaml

open CredRegistry.Text

/-- The variant that a tag makes its node: the tag without the exclamation mark. -/
def variant? (tag : Option TagText) : Option String :=
  if marksVariant tag then tag.bind fun t => (fromUtf8 (t.bytes.drop 1)).toOption else none

/-- The value of a node with this tag. A variant has to have a name. -/
def withVariant (tag : Option TagText) (v : Value) : Except Error Value :=
  match variant? tag with
  | none => .ok v
  | some "" => .error (.unplaced .unexpectedTag)
  | some name => .ok (.tagged name v)

theorem withVariant_of_unmarked {tag : Option TagText} (h : marksVariant tag = false)
    (v : Value) : withVariant tag v = .ok v := by
  simp [withVariant, variant?, h]

namespace Document

open Reading

/-- The value of a scalar whose variant, if it is one, is looked at elsewhere. -/
def bareScalar (tag : Option TagText) (text : String) (plain : Bool) : Except Error Value :=
  scalarValue (if marksVariant tag then none else tag) text plain

/-- Read a node with all its tags. Keys that stand twice are not looked for yet. -/
def tree (d : Document) (depth : Nat) (path : Path) (n : Node) : Reading Value := do
  match ← d.resolve n with
  | .scalar m tag text plain =>
      placing path m (liftM (bareScalar tag text plain >>= withVariant tag))
  | .sequence m tag items =>
      placing path m do
        match depth with
        | 0 => refuse (.data .recursionLimit none (some m))
        | depth + 1 =>
            let vs ← items.zipIdx.mapM fun (n, i) => tree d depth (.index path i) n
            liftM (withVariant tag (.seq vs))
  | .mapping m tag pairs =>
      placing path m do
        match depth with
        | 0 => refuse (.data .recursionLimit none (some m))
        | depth + 1 =>
            let kvs ← pairs.mapM fun (k, v) => do
              let key ← tree d depth path k
              let val ← tree d depth (valuePath path k) v
              pure (key, val)
            liftM (withVariant tag (.map kvs))
  | _ => pure .null

/-- See both sides of an entry of a mapping. -/
def entryTree (d : Document) (depth : Nat) (path : Path) (entry : Node × Node) :
    Reading (Value × Value) := do
  let key ← d.tree depth path entry.1
  let val ← d.tree depth (valuePath path entry.1) entry.2
  pure (key, val)

/-- What it takes to see a value at a node that is no alias, with so many aliases followed before
its parts and after them. -/
def Sees (d : Document) (depth : Nat) (path : Path) (j j' : Nat) (v : Value) : Node → Prop
  | .scalar _ tag text plain => (bareScalar tag text plain >>= withVariant tag) = .ok v
  | .sequence _ tag items => ∃ k vs, depth = k + 1 ∧ withVariant tag (.seq vs) = .ok v ∧
      (items.zipIdx.mapM fun p => d.tree k (path.index p.2) p.1) j = .ok (vs, j')
  | .mapping _ tag pairs => ∃ k kvs, depth = k + 1 ∧ withVariant tag (.map kvs) = .ok v ∧
      (pairs.mapM (d.entryTree k path)) j = .ok (kvs, j')
  | _ => v = .null

theorem tree_cases {d : Document} {depth : Nat} {path : Path} {n : Node} {j j' : Nat}
    {v : Value} (h : d.tree depth path n j = .ok (v, j')) :
    ∃ n' j₁, d.resolve n j = .ok (n', j₁) ∧ d.Sees depth path j₁ j' v n' := by
  rw [tree.eq_def] at h
  obtain ⟨n', j₁, hn, h⟩ := bind_ok.mp h
  refine ⟨n', j₁, hn, ?_⟩
  cases n' with
  | scalar m tag text plain => exact (lift_ok.mp (placing_ok.mp h)).1
  | sequence m tag items =>
      replace h := placing_ok.mp h
      cases depth with
      | zero => simp [refuse] at h
      | succ k =>
          obtain ⟨vs, j₂, hvs, h⟩ := bind_ok.mp h
          obtain ⟨hv, rfl⟩ := lift_ok.mp h
          exact ⟨k, vs, rfl, hv, hvs⟩
  | mapping m tag pairs =>
      replace h := placing_ok.mp h
      cases depth with
      | zero => simp [refuse] at h
      | succ k =>
          obtain ⟨kvs, j₂, hkvs, h⟩ := bind_ok.mp h
          obtain ⟨hv, rfl⟩ := lift_ok.mp h
          exact ⟨k, kvs, rfl, hv, hkvs⟩
  | _ => exact (pure_ok.mp h).1.symm

/-! ## What has been read is seen -/

theorem unmarked_of_scalarValue {tag : Option TagText} {text : String} {plain : Bool}
    {v : Value} (h : scalarValue tag text plain = .ok v) : marksVariant tag = false := by
  unfold scalarValue at h
  split at h
  · cases h
  next hmarks => exact Bool.eq_false_iff.mpr hmarks

/-- A node that is read as a value has no variant, so nothing is put around its value. The
recursion follows the depth. -/
theorem tree_of_value {d : Document} {depth : Nat} {path : Path} {n : Node} {j j' : Nat}
    {v : Value} (h : d.value depth path n j = .ok (v, j')) :
    d.tree depth path n j = .ok (v, j') := by
  obtain ⟨n', j₁, hn, hv⟩ := value_cases h
  rw [tree.eq_def]
  refine bind_ok.mpr ⟨n', j₁, hn, ?_⟩
  rcases hv with ⟨m, tag, text, plain, rfl, rfl, hs⟩
    | ⟨m, tag, items, k, vs, rfl, hunmarked, rfl, rfl, hvs⟩
    | ⟨m, tag, pairs, k, kvs, rfl, hunmarked, rfl, rfl, hkvs⟩ | ⟨hcontent, rfl, rfl⟩
  · have hunmarked := unmarked_of_scalarValue hs
    refine placing_ok.mpr (lift_ok.mpr ⟨?_, rfl⟩)
    simp only [bareScalar, hunmarked, Bool.false_eq_true, if_false, hs]
    exact withVariant_of_unmarked hunmarked v
  · refine placing_ok.mpr (bind_ok.mpr ⟨vs, j', ?_, ?_⟩)
    · exact mapM_mono (fun p j y j' hy => tree_of_value hy) hvs
    · exact lift_ok.mpr ⟨withVariant_of_unmarked hunmarked _, rfl⟩
  · refine placing_ok.mpr (bind_ok.mpr ⟨kvs, j', ?_, ?_⟩)
    · refine mapM_mono (fun p j kv j' hkv => ?_) hkvs
      obtain ⟨key, j₂, hkey, hkv⟩ := bind_ok.mp hkv
      obtain ⟨val, j₃, hval, hkv⟩ := bind_ok.mp hkv
      exact bind_ok.mpr ⟨key, j₂, tree_of_value hkey,
        bind_ok.mpr ⟨val, j₃, tree_of_value hval, hkv⟩⟩
    · exact lift_ok.mpr ⟨withVariant_of_unmarked hunmarked _, rfl⟩
  · cases n' with
    | scalar | sequence | mapping => cases hcontent
    | _ => rfl
termination_by depth

/-! ## What is seen depends on the node alone -/

/-- A list that was read item by item, as a relation between items. -/
theorem reads_of_mapM {α β : Type} {f : α → Reading β} : ∀ {xs : List α} {ys : List β} {j j' : Nat},
    (xs.mapM f) j = .ok (ys, j') → List.Forall₂ (fun x y => ∃ i i', f x i = .ok (y, i')) xs ys
  | [], _, _, _, h => by
      obtain ⟨rfl, -⟩ := pure_ok.mp h
      exact .nil
  | x :: xs, _, j, _, h => by
      obtain ⟨y, ys, j₁, rfl, hy, hys⟩ := mapM_cons_ok.mp h
      exact .cons ⟨j, j₁, hy⟩ (reads_of_mapM hys)

/-- Two lists that go with the same items go with each other. -/
theorem forall₂_of_common {α β γ : Type} {R : α → β → Prop} {S : α → γ → Prop} {xs : List α}
    {ys : List β} {zs : List γ} (hys : List.Forall₂ R xs ys) (hzs : List.Forall₂ S xs zs) :
    List.Forall₂ (fun y z => ∃ x, R x y ∧ S x z) ys zs := by
  induction hys generalizing zs with
  | nil =>
      cases hzs
      exact .nil
  | cons hxy _ ih =>
      cases hzs with
      | cons hxz hzs => exact .cons ⟨_, hxy, hxz⟩ (ih hzs)

theorem follow_unique {d : Document} {anchor : Nat} {n₁ n₂ : Node} {i i' j j' : Nat}
    (h₁ : d.follow anchor i = .ok (n₁, i')) (h₂ : d.follow anchor j = .ok (n₂, j')) :
    n₁ = n₂ := by
  unfold follow at h₁ h₂
  split at h₁
  · cases h₁
  · split at h₂
    · cases h₂
    · cases htarget : d.target? anchor with
      | none => simp [htarget] at h₁
      | some n =>
          simp only [htarget, Except.ok.injEq, Prod.mk.injEq] at h₁ h₂
          exact h₁.1.symm.trans h₂.1

theorem resolve_unique {d : Document} {n n₁ n₂ : Node} {i i' j j' : Nat}
    (h₁ : d.resolve n i = .ok (n₁, i')) (h₂ : d.resolve n j = .ok (n₂, j')) : n₁ = n₂ := by
  cases n with
  | cut => cases h₁
  | «alias» m anchor =>
      obtain ⟨t₁, i₁, ht₁, h₁⟩ := bind_ok.mp h₁
      obtain ⟨t₂, j₁, ht₂, h₂⟩ := bind_ok.mp h₂
      obtain rfl := follow_unique ht₁ ht₂
      cases t₁ with
      | cut => cases h₁
      | _ => exact (pure_ok.mp h₁).1.symm.trans (pure_ok.mp h₂).1
  | _ => exact (pure_ok.mp h₁).1.symm.trans (pure_ok.mp h₂).1

/-- By cases on the node that both ways lead to; the recursion follows the depth. -/
theorem tree_unique {d : Document} {depth depth' : Nat} {path path' : Path} {n : Node}
    {i i' j j' : Nat} {v w : Value} (hv : d.tree depth path n i = .ok (v, i'))
    (hw : d.tree depth' path' n j = .ok (w, j')) : v = w := by
  obtain ⟨n', i₁, hn₁, hv⟩ := tree_cases hv
  obtain ⟨n₂, j₁, hn₂, hw⟩ := tree_cases hw
  obtain rfl := resolve_unique hn₁ hn₂
  cases n' with
  | scalar m tag text plain => exact Except.ok.inj (hv.symm.trans hw)
  | sequence m tag items =>
      obtain ⟨k, vs, rfl, hv, hvs⟩ := hv
      obtain ⟨k', ws, rfl, hw, hws⟩ := hw
      have hsame : List.Forall₂ (· = ·) vs ws := by
        refine (forall₂_of_common (reads_of_mapM hvs) (reads_of_mapM hws)).imp ?_
        rintro x y ⟨p, ⟨_, _, hx⟩, ⟨_, _, hy⟩⟩
        exact tree_unique hx hy
      rw [List.forall₂_eq_eq_eq] at hsame
      subst hsame
      exact Except.ok.inj (hv.symm.trans hw)
  | mapping m tag pairs =>
      obtain ⟨k, kvs, rfl, hv, hkvs⟩ := hv
      obtain ⟨k', kws, rfl, hw, hkws⟩ := hw
      have hsame : List.Forall₂ (· = ·) kvs kws := by
        refine (forall₂_of_common (reads_of_mapM hkvs) (reads_of_mapM hkws)).imp ?_
        rintro x y ⟨p, ⟨_, _, hx⟩, ⟨_, _, hy⟩⟩
        obtain ⟨key, _, hkey, hx⟩ := bind_ok.mp hx
        obtain ⟨val, _, hval, hx⟩ := bind_ok.mp hx
        obtain ⟨key', _, hkey', hy⟩ := bind_ok.mp hy
        obtain ⟨val', _, hval', hy⟩ := bind_ok.mp hy
        obtain ⟨rfl, -⟩ := pure_ok.mp hx
        obtain ⟨rfl, -⟩ := pure_ok.mp hy
        rw [tree_unique hkey hkey', tree_unique hval hval']
      rw [List.forall₂_eq_eq_eq] at hsame
      subst hsame
      exact Except.ok.inj (hv.symm.trans hw)
  | _ => exact hv.trans hw.symm
termination_by depth

/-! ## What was seen -/

theorem withVariant_ok {tag : Option TagText} {v w : Value} (h : withVariant tag v = .ok w) :
    w = v ∨ ∃ name, w = .tagged name v := by
  unfold withVariant at h
  split at h
  · exact .inl (Except.ok.inj h).symm
  · cases h
  next name _ _ => exact .inr ⟨name, (Except.ok.inj h).symm⟩

/-- A scalar is seen as one, possibly under a tag. -/
theorem bareScalar_ok {tag : Option TagText} {text : String} {plain : Bool} {w : Value}
    (h : (bareScalar tag text plain >>= withVariant tag) = .ok w) :
    ∃ v, bareScalar tag text plain = .ok v ∧ IsScalar v ∧ (w = v ∨ ∃ name, w = .tagged name v) := by
  cases hv : bareScalar tag text plain with
  | error e =>
      rw [hv] at h
      cases h
  | ok v =>
      rw [hv] at h
      exact ⟨v, rfl, isScalar_of_scalarValue hv, withVariant_ok h⟩

/-- The node is seen as the value, on whatever way one comes to it. -/
def Shows (d : Document) (n : Node) (v : Value) : Prop :=
  ∃ depth path j j', d.tree depth path n j = .ok (v, j')

theorem Shows.unique {d : Document} {n : Node} {v w : Value} (hv : d.Shows n v)
    (hw : d.Shows n w) : v = w := by
  obtain ⟨_, _, _, _, hv⟩ := hv
  obtain ⟨_, _, _, _, hw⟩ := hw
  exact tree_unique hv hw

theorem shows_of_value {d : Document} {depth : Nat} {path : Path} {n : Node} {j j' : Nat}
    {v : Value} (h : d.value depth path n j = .ok (v, j')) : d.Shows n v :=
  ⟨depth, path, j, j', tree_of_value h⟩

/-- What an alias shows, the node it stands for shows too. -/
theorem Shows.resolved {d : Document} {n n' : Node} {v : Value} {i i' : Nat} (h : d.Shows n v)
    (hn : d.resolve n i = .ok (n', i')) (hcontent : n'.hasContent = true) : d.Shows n' v := by
  obtain ⟨depth, path, j, j', h⟩ := h
  rw [tree.eq_def] at h
  obtain ⟨n₂, j₁, hn₂, h⟩ := bind_ok.mp h
  obtain rfl := resolve_unique hn hn₂
  refine ⟨depth, path, j₁, j', ?_⟩
  rw [tree.eq_def]
  refine bind_ok.mpr ⟨n', j₁, ?_, h⟩
  cases n' with
  | scalar | sequence | mapping => rfl
  | _ => cases hcontent

/-- Where a mapping is seen one stands, with entries for its entries. -/
theorem Shows.mapping {d : Document} {n : Node} {kvs : List (Value × Value)}
    (h : d.Shows n (.map kvs)) :
    ∃ m tag pairs i i', d.resolve n i = .ok (.mapping m tag pairs, i') ∧
      List.Forall₂ (fun p kv => d.Shows p.1 kv.1 ∧ d.Shows p.2 kv.2) pairs kvs := by
  obtain ⟨depth, path, j, j', h⟩ := h
  obtain ⟨n', j₁, hn, hv⟩ := tree_cases h
  cases n' with
  | scalar m tag text plain =>
      obtain ⟨v, -, hscalar, rfl | ⟨name, hv⟩⟩ := bareScalar_ok hv
      · cases hscalar
      · cases hv
  | sequence m tag items =>
      obtain ⟨k, vs, -, hv, -⟩ := hv
      obtain hv | ⟨name, hv⟩ := withVariant_ok hv <;> cases hv
  | mapping m tag pairs =>
      obtain ⟨k, kvs', -, hv, hkvs⟩ := hv
      obtain hv | ⟨name, hv⟩ := withVariant_ok hv <;> cases hv
      refine ⟨m, tag, pairs, j, j₁, hn, (reads_of_mapM hkvs).imp ?_⟩
      rintro p kv ⟨i, i', hkv⟩
      obtain ⟨key, i₁, hkey, hkv⟩ := bind_ok.mp hkv
      obtain ⟨val, i₂, hval, hkv⟩ := bind_ok.mp hkv
      obtain ⟨rfl, rfl⟩ := pure_ok.mp hkv
      exact ⟨⟨_, _, _, _, hkey⟩, ⟨_, _, _, _, hval⟩⟩
  | _ => cases hv

/-- Where a sequence is seen one stands, with items for its items. -/
theorem Shows.sequence {d : Document} {n : Node} {vs : List Value} (h : d.Shows n (.seq vs)) :
    ∃ m tag items i i', d.resolve n i = .ok (.sequence m tag items, i') ∧
      List.Forall₂ d.Shows items vs := by
  obtain ⟨depth, path, j, j', h⟩ := h
  obtain ⟨n', j₁, hn, hv⟩ := tree_cases h
  cases n' with
  | scalar m tag text plain =>
      obtain ⟨v, -, hscalar, rfl | ⟨name, hv⟩⟩ := bareScalar_ok hv
      · cases hscalar
      · cases hv
  | sequence m tag items =>
      obtain ⟨k, vs', -, hv, hvs⟩ := hv
      obtain hv | ⟨name, hv⟩ := withVariant_ok hv <;> cases hv
      have hitems : List.Forall₂ (fun p v => d.Shows p.1 v) items.zipIdx vs := by
        refine (reads_of_mapM hvs).imp ?_
        rintro p v ⟨i, i', hp⟩
        exact ⟨_, _, _, _, hp⟩
      rw [← List.forall₂_map_left_iff, List.zipIdx_map_fst] at hitems
      exact ⟨m, tag, items, j, j₁, hn, hitems⟩
  | mapping m tag pairs =>
      obtain ⟨k, kvs, -, hv, -⟩ := hv
      obtain hv | ⟨name, hv⟩ := withVariant_ok hv <;> cases hv
  | _ => cases hv

/-- Where a string is seen, its characters stand. -/
theorem Shows.text {d : Document} {path : Path} {expected : String} {n : Node} {i i' : Nat}
    {s t : String} (h : d.Shows n (.str s)) (ht : d.text path expected n i = .ok (t, i')) :
    t = s := by
  obtain ⟨depth, path, j, j', h⟩ := h
  obtain ⟨n₁, i₁, hn₁, ht⟩ := bind_ok.mp ht
  obtain ⟨n₂, j₁, hn₂, hv⟩ := tree_cases h
  obtain rfl := resolve_unique hn₁ hn₂
  cases n₁ with
  | scalar m tag text plain =>
      obtain ⟨v, hv, -, rfl | ⟨name, hw⟩⟩ := bareScalar_ok hv
      · rw [scalarValue_str hv]
        exact (pure_ok.mp ht).1.symm
      · cases hw
  | _ => cases ht

end Document

/-! ## Keys that stand twice -/

namespace Value

theorem same_str {s : String} {v : Value} : same (.str s) v = true ↔ v = .str s := by
  cases v with
  | str t => simpa [same] using eq_comm
  | _ => simp [same]

theorem duplicateInItems?_eq_none {vs : List Value} :
    duplicateInItems? vs = none ↔ ∀ v ∈ vs, v.duplicateKey? = none := by
  induction vs with
  | nil => simp [duplicateInItems?]
  | cons v vs ih => simp [duplicateInItems?, ih]

/-- A mapping passes if its parts do, and none of its keys is the same as one before it. -/
theorem duplicateInPairs?_eq_none {pairs : List (Value × Value)} : ∀ {seen : List Value},
    duplicateInPairs? seen pairs = none ↔
      (∀ kv ∈ pairs, kv.1.duplicateKey? = none ∧ kv.2.duplicateKey? = none ∧
        ∀ k ∈ seen, same kv.1 k = false) ∧
      pairs.Pairwise fun a b => same b.1 a.1 = false := by
  induction pairs with
  | nil => simp [duplicateInPairs?]
  | cons kv pairs ih =>
      intro seen
      obtain ⟨k, v⟩ := kv
      simp only [duplicateInPairs?, List.forall_mem_cons, List.pairwise_cons]
      cases hk : k.duplicateKey? with
      | some d => simp
      | none =>
          cases hseen : seen.find? (same k) with
          | some d =>
              have hd : d ∈ seen ∧ same k d = true :=
                ⟨List.mem_of_find?_eq_some hseen, List.find?_some hseen⟩
              simp only [reduceCtorEq, true_and, false_iff]
              rintro ⟨⟨⟨-, hnone⟩, -⟩, -⟩
              rw [hnone d hd.1] at hd
              exact Bool.false_ne_true hd.2
          | none =>
              have hnone : ∀ x ∈ seen, same k x = false := by
                simpa using List.find?_eq_none.mp hseen
              cases hv : v.duplicateKey? with
              | some d => simp
              | none =>
                  simp only [ih, List.forall_mem_cons, true_and]
                  constructor
                  · rintro ⟨hparts, hpairs⟩
                    refine ⟨⟨hnone, fun kv hkv => ?_⟩, fun kv hkv => ?_, hpairs⟩
                    · obtain ⟨hkey, hval, -, hfresh⟩ := hparts kv hkv
                      exact ⟨hkey, hval, hfresh⟩
                    · exact (hparts kv hkv).2.2.1
                  · rintro ⟨⟨-, hparts⟩, hfirst, hpairs⟩
                    refine ⟨fun kv hkv => ?_, hpairs⟩
                    obtain ⟨hkey, hval, hfresh⟩ := hparts kv hkv
                    exact ⟨hkey, hval, hfirst kv hkv, hfresh⟩

end Value

/-! ## Whole texts -/

/-- What a text shows, also if a key stands twice. -/
def view (text : String) : Except Error Value :=
  let d := Document.ofString text
  d.whole (d.tree depthLimit .root d.root)

/-- The value that a text holds, seen as plain YAML. -/
def parse (text : String) : Except Error Value := do
  let v ← view text
  match v.duplicateKey? with
  | some key => .error (.unplaced (.duplicateKey key))
  | none => .ok v

theorem parse_ok {text : String} {v : Value} :
    parse text = .ok v ↔ view text = .ok v ∧ v.duplicateKey? = none := by
  unfold parse
  cases view text with
  | error e => simp [bind, Except.bind]
  | ok w =>
      simp only [bind, Except.bind, Except.ok.injEq]
      cases hkeys : w.duplicateKey? with
      | some key =>
          simp only [reduceCtorEq, false_iff]
          rintro ⟨rfl, hnone⟩
          rw [hnone] at hkeys
          cases hkeys
      | none =>
          simp only [Except.ok.injEq]
          constructor
          · rintro rfl
            exact ⟨rfl, hkeys⟩
          · exact And.left

/-- What has been read is seen, unless a key stands twice in it. -/
theorem parse_of_read {text : String} {v : Value} (h : read text = .ok v)
    (hkeys : v.duplicateKey? = none) : parse text = .ok v := by
  obtain ⟨⟨j, hv⟩, hend⟩ := Document.whole_ok.mp h
  exact parse_ok.mpr ⟨Document.whole_ok.mpr ⟨⟨j, Document.tree_of_value hv⟩, hend⟩, hkeys⟩

end CredRegistry.Yaml
