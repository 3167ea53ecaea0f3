import CredRegistry.Proofs.Json.Source
import CredRegistry.Proofs.Json.Spelled

/-!
# Values read back from their text

A value is read back from the text it is written as, if it has no floats, its integers have at
most 64 bits and it is not nested too deep (`Plain`). The induction is on the fuel of the reader:
twice as much as the text has characters is enough, since at a character at most a value is begun
and a list of items or fields (`gives_spelledWithin`). What comes out is the value as it was
written, so as a whole text it comes to the value that is settled (`ofText_text`).
-/

namespace CredRegistry.Json

namespace Value

/-- A value without floats, nested at most `depth` deep. -/
inductive Plain : Nat → Value → Prop where
  | null (depth : Nat) : Plain depth .null
  | bool (depth : Nat) (b : Bool) : Plain depth (.bool b)
  | int (depth : Nat) {n : Int} (hn : -0x8000000000000000 ≤ n ∧ n < 0x10000000000000000) :
      Plain depth (.int n)
  | str (depth : Nat) (s : String) : Plain depth (.str s)
  | array {depth : Nat} {items : List Value} (hitems : ∀ v ∈ items, Plain depth v) :
      Plain (depth + 1) (.array items)
  | object {depth : Nat} {fields : List (String × Value)}
      (hfields : ∀ f ∈ fields, Plain depth f.2) : Plain (depth + 1) (.object fields)

/-- The items behind the first one. -/
def laterItemChars (items : List Value) : List Char := items.flatMap fun v => ',' :: v.chars

theorem itemChars_cons (v : Value) (items : List Value) :
    itemChars (v :: items) = v.chars ++ laterItemChars items := by
  induction items generalizing v with
  | nil => simp [itemChars, laterItemChars]
  | cons w items ih =>
      rw [itemChars, ih w]
      · rfl
      · exact List.cons_ne_nil w items

/-- No value begins like the end of a list. -/
theorem Plain.chars_eq_cons {depth : Nat} {v : Value} (h : Plain depth v) :
    ∃ c cs, v.chars = c :: cs ∧ Reader.isSpace c = false ∧ c ≠ ']' := by
  cases h with
  | null => exact ⟨_, _, rfl, rfl, by decide⟩
  | bool depth b => cases b <;> exact ⟨_, _, rfl, rfl, by decide⟩
  | @int _ n hn =>
      obtain ⟨c, cs, hchars, hspace, hstart⟩ := Reader.toString_eq_cons n
      refine ⟨c, cs, hchars, hspace, ?_⟩
      rintro rfl
      cases hstart
  | str => exact ⟨_, _, rfl, rfl, by decide⟩
  | array => exact ⟨_, _, rfl, rfl, by decide⟩
  | object => exact ⟨_, _, rfl, rfl, by decide⟩

end Value

namespace Reader

open Value (Plain itemChars fieldChars laterItemChars itemChars_cons)
open TextSource (laterChars fieldChars_cons follows_laterChars)

variable {cs cs' cs'' rest : List Char}

/-! ## Items and fields in turn -/

/-- Items as they are written, with a comma in front unless they are the first. -/
def listed (first : Bool) (items : List Value) : List Char :=
  if first then itemChars items else laterItemChars items

/-- Fields as they are written, with a comma in front unless they are the first. -/
def listedFields (first : Bool) (fields : List (String × Value)) : List Char :=
  if first then fieldChars fields else laterChars fields

theorem length_listed_cons (first : Bool) (v : Value) (items : List Value) :
    v.chars.length + (listed false items).length ≤ (listed first (v :: items)).length := by
  cases first with
  | true => simp [listed, itemChars_cons]
  | false =>
      simp only [listed, laterItemChars, Bool.false_eq_true, if_false, List.flatMap_cons,
        List.length_append, List.length_cons]
      omega

theorem length_listedFields_cons (first : Bool) (k : String) (v : Value)
    (fields : List (String × Value)) :
    v.chars.length + (listedFields false fields).length
      < (listedFields first ((k, v) :: fields)).length := by
  cases first with
  | true =>
      simp only [listedFields, fieldChars_cons, Bool.false_eq_true, if_false, if_true,
        List.length_append, List.length_cons]
      omega
  | false =>
      simp only [listedFields, laterChars, Bool.false_eq_true, if_false, List.flatMap_cons,
        List.length_append, List.length_cons]
      omega

theorem follows_listed (items : List Value) (rest : List Char) :
    Follows (listed false items ++ ']' :: rest) := by
  intro c hc
  cases items with
  | nil =>
      cases hc
      exact .inr (.inl rfl)
  | cons v items =>
      cases hc
      exact .inl rfl

theorem gives_nextItem_cons {n : Nat} {v : Value} (hv : Plain n v) (first : Bool)
    (items : List Value) (rest : List Char) :
    Gives (nextItem first) (listed first (v :: items) ++ ']' :: rest) true
      (v.chars ++ (listed false items ++ ']' :: rest)) := by
  obtain ⟨c, cs, hchars, hspace, hc⟩ := hv.chars_eq_cons
  cases first with
  | true =>
      have hlisted : listed true (v :: items) ++ ']' :: rest
          = c :: (cs ++ (listed false items ++ ']' :: rest)) := by
        simp [listed, itemChars_cons, hchars]
      rw [hlisted, hchars]
      refine (gives_peek? hspace _).bind ?_
      split
      next heq => cases heq
      next heq => exact absurd (Option.some.inj heq) hc
      next => exact gives_pure true _
  | false =>
      have hlisted : listed false (v :: items) ++ ']' :: rest
          = ',' :: c :: (cs ++ (listed false items ++ ']' :: rest)) := by
        simp [listed, laterItemChars, hchars]
      rw [hlisted, hchars]
      refine (gives_peek? rfl _).bind ((gives_advance ',' _).bind ((gives_peek? hspace _).bind ?_))
      split
      next heq => cases heq
      next heq => exact absurd (Option.some.inj heq) hc
      next => exact gives_pure true _

theorem gives_nextItem_end (first : Bool) (rest : List Char) :
    Gives (nextItem first) (']' :: rest) false (']' :: rest) :=
  (gives_peek? rfl rest).bind (gives_pure false _)

theorem gives_endItems (rest : List Char) : Gives endItems (']' :: rest) () rest :=
  (gives_peek? rfl rest).bind (gives_advance ']' rest)

theorem gives_nextKey_cons (first : Bool) (k : String) (v : Value)
    (fields : List (String × Value)) (rest : List Char) :
    Gives (nextKey first) (listedFields first ((k, v) :: fields) ++ '\x7d' :: rest) (some k)
      (':' :: (v.chars ++ (listedFields false fields ++ '\x7d' :: rest))) := by
  cases first with
  | true =>
      have hlisted : listedFields true ((k, v) :: fields) ++ '\x7d' :: rest = stringChars k ++
          ':' :: (v.chars ++ (listedFields false fields ++ '\x7d' :: rest)) := by
        simp [listedFields, fieldChars_cons]
      rw [hlisted]
      exact gives_nextKey_first k _
  | false =>
      have hlisted : listedFields false ((k, v) :: fields) ++ '\x7d' :: rest
          = ',' :: (stringChars k ++
            ':' :: (v.chars ++ (listedFields false fields ++ '\x7d' :: rest))) := by
        simp [listedFields, laterChars]
      rw [hlisted]
      exact gives_nextKey_later k _

/-! ## One more step of the reader -/

/-- With this fuel plain values are read back, if what follows them ends them. -/
def ReadsValues (fuel : Nat) : Prop :=
  ∀ {depth n : Nat} {v : Value} {rest : List Char}, Plain n v → n < depth →
    2 * v.chars.length ≤ fuel → Follows rest →
    Gives (spelledWithin fuel depth) (v.chars ++ rest) v rest

def ReadsItems (fuel : Nat) : Prop :=
  ∀ {depth n : Nat} {first : Bool} {items : List Value} (rest : List Char),
    (∀ v ∈ items, Plain n v) → n < depth → 2 * (listed first items).length < fuel →
    Gives (spelledItems fuel depth first) (listed first items ++ ']' :: rest) items (']' :: rest)

def ReadsFields (fuel : Nat) : Prop :=
  ∀ {depth n : Nat} {first : Bool} {fields : List (String × Value)} (rest : List Char),
    (∀ f ∈ fields, Plain n f.2) → n < depth → 2 * (listedFields first fields).length < fuel →
    Gives (spelledFields fuel depth first) (listedFields first fields ++ '\x7d' :: rest) fields
      ('\x7d' :: rest)

variable {fuel : Nat}

theorem readsItems_succ (hvalues : ReadsValues fuel) (hitems : ReadsItems fuel) :
    ReadsItems (fuel + 1) := by
  intro depth n first items rest h hdepth hfuel
  cases items with
  | nil =>
      have hnone : listed first [] = [] := by cases first <;> rfl
      rw [hnone]
      exact (gives_nextItem_end first rest).bind (gives_pure _ _)
  | cons v items =>
      obtain ⟨hv, hrest⟩ := List.forall_mem_cons.mp h
      have hlength := length_listed_cons first v items
      have hpositive : 0 < v.chars.length := by
        obtain ⟨c, cs, hchars, -⟩ := hv.chars_eq_cons
        rw [hchars]
        exact Nat.succ_pos _
      refine (gives_nextItem_cons hv first items rest).bind ?_
      refine (hvalues hv hdepth (by omega) (follows_listed items rest)).bind ?_
      exact (hitems rest hrest hdepth (by omega)).bind (gives_pure _ _)

theorem readsFields_succ (hvalues : ReadsValues fuel) (hfields : ReadsFields fuel) :
    ReadsFields (fuel + 1) := by
  intro depth n first fields rest h hdepth hfuel
  cases fields with
  | nil =>
      have hnone : listedFields first [] = [] := by cases first <;> rfl
      rw [hnone]
      exact (gives_nextKey_end first rest).bind (gives_pure _ _)
  | cons f fields =>
      obtain ⟨k, v⟩ := f
      have hv : Plain n v := h (k, v) List.mem_cons_self
      have hrest := (List.forall_mem_cons.mp h).2
      have hlength := length_listedFields_cons first k v fields
      refine (gives_nextKey_cons first k v fields rest).bind ((gives_colon _).bind ?_)
      refine (hvalues hv hdepth (by omega) (follows_laterChars fields rest)).bind ?_
      exact (hfields rest hrest hdepth (by omega)).bind (gives_pure _ _)

theorem valueBy_numeral (array object : Reader Value) {c : Char}
    (hc : (c == '-' || c.isDigit) = true) : valueBy array object (some c) = numeral c := by
  unfold valueBy
  split <;> rename_i heq <;> cases heq
  all_goals first | rfl | exact absurd hc (by decide)

theorem readsValues_succ (hitems : ReadsItems fuel) (hfields : ReadsFields fuel) :
    ReadsValues (fuel + 1) := by
  intro depth n v rest hv hdepth hfuel hrest
  cases hv with
  | null => exact (gives_peek? rfl _).bind ((gives_advance 'n' _).bind
      ((gives_word "ull".toList rest).bind (gives_pure _ rest)))
  | bool n b =>
      cases b with
      | true => exact (gives_peek? rfl _).bind ((gives_advance 't' _).bind
          ((gives_word "rue".toList rest).bind (gives_pure _ rest)))
      | false => exact (gives_peek? rfl _).bind ((gives_advance 'f' _).bind
          ((gives_word "alse".toList rest).bind (gives_pure _ rest)))
  | @int n i hi =>
      obtain ⟨c, cs, hchars, hspace, hstart⟩ := toString_eq_cons i
      show Gives _ ((toString i).toList ++ rest) _ _
      rw [hchars]
      refine (gives_peek? hspace _).bind ?_
      rw [valueBy_numeral _ _ hstart, numeral, if_pos hstart]
      exact gives_signed hi hchars hrest (gives_pure _ rest)
  | str n s =>
      show Gives _ (stringChars s ++ rest) _ _
      rw [stringChars_append]
      exact (gives_peek? rfl _).bind ((gives_advance '"' _).bind
        ((gives_string s rest).map Value.str))
  | @array n items h =>
      have hchars : (Value.array items).chars = '[' :: (listed true items ++ [']']) := by
        simp [Value.chars, listed]
      rw [hchars, List.length_cons, List.length_append] at hfuel
      rw [hchars, List.cons_append, List.append_assoc]
      refine (gives_peek? rfl _).bind ?_
      rw [valueBy, if_neg (by omega)]
      refine (gives_advance '[' _).bind (Gives.map ?_ Value.array)
      exact gives_before_iff.mpr
        ⟨']' :: rest, hitems rest h (by omega) (by omega), gives_endItems rest⟩
  | @object n fields h =>
      have hchars : (Value.object fields).chars
          = '\x7b' :: (listedFields true fields ++ ['\x7d']) := by
        simp [Value.chars, listedFields]
      rw [hchars, List.length_cons, List.length_append] at hfuel
      rw [hchars, List.cons_append, List.append_assoc]
      refine (gives_peek? rfl _).bind ?_
      rw [valueBy, if_neg (by omega)]
      refine (gives_advance '\x7b' _).bind (Gives.map ?_ Value.object)
      exact gives_before_iff.mpr
        ⟨'\x7d' :: rest, hfields rest h (by omega) (by omega), gives_endFields rest⟩

/-- Twice the characters are fuel enough for a value. -/
theorem reads (fuel : Nat) : ReadsValues fuel ∧ ReadsItems fuel ∧ ReadsFields fuel := by
  induction fuel with
  | zero =>
      refine ⟨?_, fun _ _ _ h => absurd h (Nat.not_lt_zero _),
        fun _ _ _ h => absurd h (Nat.not_lt_zero _)⟩
      intro depth n v rest hv _ hfuel _
      obtain ⟨c, cs, hchars, -, -⟩ := hv.chars_eq_cons
      rw [hchars, List.length_cons] at hfuel
      omega
  | succ fuel ih =>
      obtain ⟨hvalues, hitems, hfields⟩ := ih
      exact ⟨readsValues_succ hitems hfields, readsItems_succ hvalues hitems,
        readsFields_succ hvalues hfields⟩

theorem gives_spelled {depth n : Nat} {v : Value} {rest : List Char} (hv : Plain n v)
    (hdepth : n < depth) (hrest : Follows rest) :
    Gives (spelled depth) (v.chars ++ rest) v rest := by
  refine (gives_rest _).bind ((reads _).1 hv hdepth ?_ hrest)
  rw [List.length_append]
  omega

end Reader

namespace Value

/-- The text of a plain value comes to that value, with the last of several fields of one
name. -/
theorem ofText_text {n : Nat} {v : Value} (hv : Plain n v) (hn : n < Reader.depthLimit) :
    ofText v.text = .ok v.settled := by
  have hspelling : ofSpelling v.text = .ok v := by
    have hend : Reader.Follows [] := by
      rintro c ⟨⟩
    have hgives := Reader.gives_spelled hv hn hend
    rw [List.append_nil] at hgives
    refine read_eq_ok_iff.mpr ⟨[], ?_, rfl⟩
    rw [text, String.toList_ofList]
    exact hgives
  rw [ofText_eq, hspelling]
  rfl

end Value

end CredRegistry.Json
