import CredRegistry.Json.Value

/-!
# Looking up a field

A look-up finds the first field with a name. In an object that was made of a list of fields it
finds the last one of that list (`lookup_ofFields`), and there is no other.
-/

namespace CredRegistry

namespace Dict

variable {α : Type}

theorem lookup_append (k : String) (es es' : List (String × α)) :
    lookup k (es ++ es') = (lookup k es).or (lookup k es') := by
  induction es with
  | nil => rfl
  | cons e es ih =>
      rw [List.cons_append, lookup, lookup, ih]
      split <;> rfl

theorem get?_foldl_insert (k : String) (es : List (String × α)) :
    ∀ d : Dict α, (es.foldl (fun d e => d.insert e.1 e.2) d).get? k
      = (lookup k es.reverse).or (d.get? k) := by
  induction es with
  | nil =>
      intro d
      rfl
  | cons e es ih =>
      intro d
      rw [List.foldl_cons, ih, get?_insert, List.reverse_cons, lookup_append]
      simp only [lookup]
      split <;> simp

/-- Of several entries with one key the last one counts. -/
theorem get?_ofList (k : String) (es : List (String × α)) :
    (ofList es).get? k = lookup k es.reverse := by
  rw [ofList, get?_foldl_insert, get?_empty, Option.or_none]

end Dict

namespace Json

variable {name : String} {fields : List (String × Value)}

theorem lookup_nil (name : String) : lookup name [] = none := rfl

theorem lookup_cons (name key : String) (v : Value) (fields : List (String × Value)) :
    lookup name ((key, v) :: fields) = if key = name then some v else lookup name fields := by
  unfold lookup
  by_cases h : key = name
  · simp [h]
  · simp [h]

theorem lookup_append (name : String) (fields fields' : List (String × Value)) :
    lookup name (fields ++ fields') = (lookup name fields).or (lookup name fields') := by
  unfold lookup
  rw [List.find?_append]
  cases fields.find? (·.1 == name) <;> rfl

theorem lookup_eq_lookup (name : String) (fields : List (String × Value)) :
    lookup name fields = Dict.lookup name fields := by
  induction fields with
  | nil => rfl
  | cons f fields ih => rw [lookup_cons, Dict.lookup, ih]

theorem mem_of_lookup {v : Value} (h : lookup name fields = some v) : (name, v) ∈ fields := by
  induction fields with
  | nil => cases h
  | cons f fields ih =>
      obtain ⟨key, w⟩ := f
      rw [lookup_cons] at h
      split at h
      next heq =>
        cases h
        exact heq ▸ List.mem_cons_self
      next => exact List.mem_cons_of_mem _ (ih h)

theorem lookup_eq_none_iff : lookup name fields = none ↔ name ∉ fields.map (·.1) := by
  induction fields with
  | nil => simp [lookup_nil]
  | cons f fields ih =>
      obtain ⟨key, w⟩ := f
      rw [lookup_cons, List.map_cons, List.mem_cons]
      split
      next heq => simp [heq]
      next hne => rw [ih]; simp [Ne.symm hne]

/-- Of several fields with one name the last one counts. -/
theorem lookup_ofFields {given : List (String × Value)} (h : Value.ofFields fields = .object given)
    (name : String) : lookup name given = lookup name fields.reverse := by
  cases h
  rw [lookup_eq_lookup, lookup_eq_lookup]
  exact Dict.get?_ofList name fields

theorem nodup_ofFields {given : List (String × Value)}
    (h : Value.ofFields fields = .object given) : (given.map (·.1)).Nodup := by
  cases h
  rw [List.nodup_iff_pairwise_ne, List.pairwise_map]
  refine (Dict.ofList fields).ascending.imp ?_
  intro f g hlt heq
  rw [heq] at hlt
  exact String.lt_irrefl _ hlt

end Json

end CredRegistry
