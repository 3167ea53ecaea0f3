/-!
# Dictionaries in key order

Finite maps from strings, kept as the list of their entries with the keys in
ascending order. The order is part of the type: two dictionaries are equal
exactly when they hold the same entries.

`get?_insert` says what an insertion does to a look-up.
-/

namespace CredRegistry

/-- A finite map from strings to `α`. -/
structure Dict (α : Type) where
  entries : List (String × α)
  ascending : entries.Pairwise (fun a b => a.1 < b.1)

namespace Dict

variable {α : Type}

instance [Repr α] : Repr (Dict α) := ⟨fun d n => reprPrec d.entries n⟩

theorem ext_entries {d e : Dict α} (h : d.entries = e.entries) : d = e := by
  cases d; cases e; cases h; rfl

instance [DecidableEq α] : DecidableEq (Dict α) := fun d e =>
  if h : d.entries = e.entries then .isTrue (ext_entries h)
  else .isFalse fun h' => h (h' ▸ rfl)

def empty : Dict α := ⟨[], .nil⟩

instance : EmptyCollection (Dict α) := ⟨empty⟩
instance : Inhabited (Dict α) := ⟨empty⟩

def keys (d : Dict α) : List String := d.entries.map (·.1)

/-- The value of the first entry with key `k`. -/
def lookup (k : String) : List (String × α) → Option α
  | [] => none
  | (k', v) :: es => if k' = k then some v else lookup k es

def get? (d : Dict α) (k : String) : Option α := lookup k d.entries

def contains (d : Dict α) (k : String) : Bool := (d.get? k).isSome

/-- Put an entry in its place, in the stead of one with the same key. -/
def insertEntry (k : String) (v : α) : List (String × α) → List (String × α)
  | [] => [(k, v)]
  | (k', v') :: es =>
      if k < k' then (k, v) :: (k', v') :: es
      else if k = k' then (k, v) :: es
      else (k', v') :: insertEntry k v es

theorem mem_insertEntry {k : String} {v : α} {e : String × α} :
    ∀ {es : List (String × α)}, e ∈ insertEntry k v es → e = (k, v) ∨ e ∈ es
  | [], h => by simpa [insertEntry] using h
  | (k', v') :: es, h => by
      unfold insertEntry at h
      split at h
      · simpa using h
      · split at h
        · simp only [List.mem_cons] at h ⊢
          exact h.imp_right .inr
        · simp only [List.mem_cons] at h ⊢
          rcases h with h | h
          · exact .inr (.inl h)
          · exact (mem_insertEntry h).imp_right .inr

theorem mem_insertEntry_self (k : String) (v : α) : ∀ es, (k, v) ∈ insertEntry k v es
  | [] => by simp [insertEntry]
  | (k', v') :: es => by
      unfold insertEntry
      split
      · simp
      · split
        · simp
        · exact List.mem_cons_of_mem _ (mem_insertEntry_self k v es)

/-- An insertion at another key leaves an entry where it is. -/
theorem mem_insertEntry_of_ne {k : String} {v : α} {e : String × α} (hne : e.1 ≠ k) :
    ∀ {es : List (String × α)}, e ∈ es → e ∈ insertEntry k v es
  | (k', v') :: es, h => by
      unfold insertEntry
      split
      · exact List.mem_cons_of_mem _ h
      · split
        next heq =>
          rcases List.mem_cons.mp h with rfl | h
          · exact absurd heq.symm hne
          · exact List.mem_cons_of_mem _ h
        next =>
          rcases List.mem_cons.mp h with rfl | h
          · exact List.mem_cons_self
          · exact List.mem_cons_of_mem _ (mem_insertEntry_of_ne hne h)

theorem ascending_insertEntry (k : String) (v : α) :
    ∀ {es : List (String × α)}, es.Pairwise (fun a b => a.1 < b.1) →
      (insertEntry k v es).Pairwise (fun a b => a.1 < b.1)
  | [], _ => by simp [insertEntry]
  | (k', v') :: es, h => by
      obtain ⟨hhead, htail⟩ := List.pairwise_cons.mp h
      unfold insertEntry
      split
      next hlt =>
        refine List.pairwise_cons.mpr ⟨fun e he => ?_, h⟩
        rcases List.mem_cons.mp he with rfl | he
        · exact hlt
        · exact String.lt_trans hlt (hhead e he)
      next hlt =>
        split
        next heq => exact List.pairwise_cons.mpr ⟨fun e he => heq ▸ hhead e he, htail⟩
        next hne =>
          refine List.pairwise_cons.mpr ⟨fun e he => ?_, ascending_insertEntry k v htail⟩
          rcases mem_insertEntry he with rfl | he
          · exact String.not_le.mp fun hle => hne (String.le_antisymm hle (String.not_lt.mp hlt))
          · exact hhead e he

def insert (d : Dict α) (k : String) (v : α) : Dict α :=
  ⟨insertEntry k v d.entries, ascending_insertEntry k v d.ascending⟩

def erase (d : Dict α) (k : String) : Dict α :=
  ⟨d.entries.filter (·.1 ≠ k), d.ascending.filter _⟩

/-- The dictionary of a list of entries; of several with one key the last counts. -/
def ofList (es : List (String × α)) : Dict α :=
  es.foldl (fun d e => d.insert e.1 e.2) empty

def union (d e : Dict α) : Dict α :=
  e.entries.foldl (fun d e => d.insert e.1 e.2) d

def isEmpty (d : Dict α) : Bool := d.entries.isEmpty

theorem lookup_insertEntry (k k' : String) (v : α) (es : List (String × α)) :
    lookup k' (insertEntry k v es) = if k = k' then some v else lookup k' es := by
  induction es with
  | nil => simp [insertEntry, lookup]
  | cons e es ih =>
      obtain ⟨a, w⟩ := e
      unfold insertEntry
      split
      · simp [lookup]
      · split
        next heq => subst heq; simp only [lookup]; split <;> rfl
        next hne =>
          simp only [lookup, ih]
          split
          · next ha => rw [if_neg (fun h => hne (h.trans ha.symm))]
          · rfl

theorem lookup_eq_none {k : String} :
    ∀ {es : List (String × α)}, (∀ e ∈ es, e.1 ≠ k) → lookup k es = none
  | [], _ => rfl
  | (k', v') :: es, h => by
      rw [lookup, if_neg (h (k', v') (List.mem_cons_self ..))]
      exact lookup_eq_none fun e he => h e (List.mem_cons_of_mem _ he)

/-- A look-up after an insertion. -/
theorem get?_insert (d : Dict α) (k k' : String) (v : α) :
    (d.insert k v).get? k' = if k = k' then some v else d.get? k' :=
  lookup_insertEntry k k' v d.entries

/-- A look-up in the empty dictionary. -/
theorem get?_empty (k : String) : (empty : Dict α).get? k = none := rfl

/-! ## Dictionaries of a list -/

theorem insertEntry_of_forall_lt {k : String} {v : α} :
    ∀ {es : List (String × α)}, (∀ e ∈ es, e.1 < k) → insertEntry k v es = es ++ [(k, v)]
  | [], _ => rfl
  | (k', v') :: es, h => by
      have hk : k' < k := h (k', v') (List.mem_cons_self ..)
      have hes := insertEntry_of_forall_lt (v := v) fun e he => h e (List.mem_cons_of_mem _ he)
      rw [insertEntry, if_neg (String.lt_asymm hk),
        if_neg (fun heq => String.lt_irrefl _ (heq ▸ hk)), hes]
      rfl

theorem entries_foldl_insert (es : List (String × α)) :
    ∀ (d : Dict α), (d.entries ++ es).Pairwise (fun a b => a.1 < b.1) →
      (es.foldl (fun d e => d.insert e.1 e.2) d).entries = d.entries ++ es := by
  induction es with
  | nil => intro d _; simp
  | cons e es ih =>
      intro d h
      have hlt : ∀ x ∈ d.entries, x.1 < e.1 := fun x hx =>
        (List.pairwise_append.mp h).2.2 x hx e (List.mem_cons_self ..)
      have hins : (d.insert e.1 e.2).entries = d.entries ++ [e] := insertEntry_of_forall_lt hlt
      rw [List.foldl_cons, ih _ (by rw [hins]; simpa using h), hins]
      simp

/-- A dictionary is made again from its entries. -/
theorem ofList_entries (d : Dict α) : ofList d.entries = d :=
  ext_entries (entries_foldl_insert d.entries empty (by simpa [empty] using d.ascending))

theorem mem_foldl_insert {e : String × α} {es : List (String × α)} :
    ∀ {d : Dict α}, e ∈ (es.foldl (fun d e => d.insert e.1 e.2) d).entries →
      e ∈ d.entries ∨ e ∈ es := by
  induction es with
  | nil => intro d h; exact .inl h
  | cons f es ih =>
      intro d h
      rcases ih h with h | h
      · rcases mem_insertEntry h with rfl | h
        · exact .inr (List.mem_cons_self ..)
        · exact .inl h
      · exact .inr (List.mem_cons_of_mem _ h)

/-- A dictionary holds nothing that is not in the list it was made of. -/
theorem mem_of_mem_ofList {e : String × α} {es : List (String × α)}
    (h : e ∈ (ofList es).entries) : e ∈ es := by
  rcases mem_foldl_insert h with h | h
  · cases h
  · exact h

/-- An entry that has been put in stays, if its key does not come again. -/
theorem mem_foldl_insert_of_nodup {e : String × α} {es : List (String × α)} :
    ∀ {d : Dict α}, (es.map (·.1)).Nodup → (e ∈ d.entries ∧ e.1 ∉ es.map (·.1)) ∨ e ∈ es →
      e ∈ (es.foldl (fun d e => d.insert e.1 e.2) d).entries := by
  induction es with
  | nil =>
      rintro d - (⟨h, -⟩ | h)
      · exact h
      · cases h
  | cons f es ih =>
      intro d hkeys h
      obtain ⟨hfresh, hkeys⟩ := List.nodup_cons.mp hkeys
      refine ih hkeys ?_
      rcases h with ⟨h, hout⟩ | h
      · rw [List.map_cons, List.mem_cons, not_or] at hout
        exact .inl ⟨mem_insertEntry_of_ne hout.1 h, hout.2⟩
      · rcases List.mem_cons.mp h with rfl | h
        · exact .inl ⟨mem_insertEntry_self _ _ _, hfresh⟩
        · exact .inr h

/-- A dictionary holds all of the list it was made of, if no key stands twice there. -/
theorem mem_ofList {e : String × α} {es : List (String × α)} (hkeys : (es.map (·.1)).Nodup)
    (h : e ∈ es) : e ∈ (ofList es).entries :=
  mem_foldl_insert_of_nodup hkeys (.inr h)

end Dict

end CredRegistry
