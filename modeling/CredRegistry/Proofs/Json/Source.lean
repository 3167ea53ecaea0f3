import CredRegistry.Json.Source
import CredRegistry.Proofs.Json.Reading

/-!
# Records read from what is written

Each kind of value is read back from its text. A record is read from an object if each field in
turn is one of its own, comes for the first time and is taken in (`Takes`); `gives_record` says so
of the whole object, by induction on the fields, with the brackets and commas around them.
-/

namespace CredRegistry.Json

namespace TextSource

open Reader

variable {α σ : Type} {cs rest : List Char}

@[simp] theorem textSource_record (name : String) (fs : List (Field Reader σ)) (start : σ)
    (finish : Given → σ → Reader α) :
    textSource.record name fs start finish = record name fs start finish := rfl

/-! ## Values of each kind -/

theorem gives_begin {c : Char} (hc : isSpace c = false) (cs : List Char) :
    Gives begin (c :: cs) c (c :: cs) :=
  (gives_peek? hc cs).bind (gives_pure c (c :: cs))

theorem gives_string (expected s : String) (rest : List Char) :
    Gives (string expected) (stringChars s ++ rest) s rest := by
  rw [stringChars_append]
  exact (gives_begin rfl _).bind ((gives_advance '"' _).bind (Reader.gives_string s rest))

theorem gives_integer {low high n : Int} (expected : String) (hlow : low ≤ n) (hhigh : n ≤ high)
    (hn : -0x8000000000000000 ≤ n ∧ n < 0x10000000000000000) (h : Follows rest) :
    Gives (integer low high expected) ((toString n).toList ++ rest) n rest := by
  have hbounds : outOfBounds? low high expected n = none := if_pos ⟨hlow, hhigh⟩
  obtain ⟨c, cs, hchars, hspace, hstart⟩ := toString_eq_cons n
  rw [hchars]
  refine (gives_begin hspace _).bind ?_
  rw [if_pos hstart, gives_placing_iff]
  refine gives_signed hn hchars h ?_
  simp only [hbounds]
  exact gives_pure n rest

theorem gives_boolean (b : Bool) (rest : List Char) :
    Gives boolean ((Value.bool b).chars ++ rest) b rest := by
  cases b with
  | true =>
      refine (gives_begin rfl _).bind ((gives_advance 't' _).bind ?_)
      exact (gives_word "rue".toList rest).bind (gives_pure true rest)
  | false =>
      refine (gives_begin rfl _).bind ((gives_advance 'f' _).bind ?_)
      exact (gives_word "alse".toList rest).bind (gives_pure false rest)

theorem gives_optional_null (r : Reader α) (rest : List Char) :
    Gives (optional r) (Value.null.chars ++ rest) none rest := by
  refine (gives_peek? rfl _).bind ((gives_advance 'n' _).bind ?_)
  exact (gives_word "ull".toList rest).bind (gives_pure none rest)

theorem gives_optional {r : Reader α} {a : α} {c : Char} (hspace : isSpace c = false)
    (hnull : c ≠ 'n') (hr : Gives r (c :: cs) a rest) :
    Gives (optional r) (c :: cs) (some a) rest := by
  refine (gives_peek? hspace cs).bind ?_
  split
  next heq => exact absurd (Option.some.inj heq) hnull
  next => exact hr.map some

theorem gives_variant {names : List String} {s : String} (hs : s ∈ names) (rest : List Char) :
    Gives (variant names) (stringChars s ++ rest) s rest := by
  refine (gives_peek? rfl _).bind ?_
  refine (gives_string "variant identifier" s rest).bind ?_
  rw [if_pos (List.contains_iff_mem.mpr hs)]
  exact gives_pure s rest

/-! ## Fields -/

/-- The fields behind the first one. -/
def laterChars (given : List (String × Value)) : List Char :=
  given.flatMap fun f => ',' :: (stringChars f.1 ++ ':' :: f.2.chars)

theorem fieldChars_cons (k : String) (v : Value) (given : List (String × Value)) :
    Value.fieldChars ((k, v) :: given)
      = stringChars k ++ ':' :: (v.chars ++ laterChars given) := by
  induction given generalizing k v with
  | nil => simp [Value.fieldChars, laterChars]
  | cons f given ih =>
      rw [Value.fieldChars, ih f.1 f.2]
      · simp [laterChars]
      · exact List.cons_ne_nil f given

theorem follows_laterChars (given : List (String × Value)) (rest : List Char) :
    Follows (laterChars given ++ '\x7d' :: rest) := by
  intro c hc
  cases given with
  | nil =>
      cases hc
      exact .inr (.inr rfl)
  | cons f given =>
      cases hc
      exact .inl rfl

/-- Fields that a record takes in one after the other, each of them once: the names that have been
seen, and what the record has become. -/
inductive Takes (fs : List (Field Reader σ)) :
    List String → σ → List (String × Value) → List String → σ → Prop where
  | nil {seen : List String} {s : σ} : Takes fs seen s [] seen s
  | cons {seen seen' : List String} {s s' s'' : σ} {k : String} {v : Value} {f : Field Reader σ}
      {given : List (String × Value)} (hfind : fs.find? (·.name == k) = some f)
      (hnew : seen.contains k = false)
      (htake : ∀ rest, Follows rest → Gives (f.take s) (v.chars ++ rest) s' rest)
      (hrest : Takes fs (k :: seen) s' given seen' s'') :
      Takes fs seen s ((k, v) :: given) seen' s''

variable {fs : List (Field Reader σ)} {seen seen' : List String} {s s' : σ}
variable {given : List (String × Value)}

theorem gives_fields_of_key {cs' cs'' : List Char} {fuel : Nat} {first : Bool} {k : String}
    {f : Field Reader σ} {a : σ × List String}
    (hkey : Gives (nextKey first) cs (some k) (':' :: cs'))
    (hfind : fs.find? (·.name == k) = some f) (hnew : seen.contains k = false)
    (htake : Gives (f.take s) cs' s' cs'')
    (hrest : Gives (fields fs fuel false (k :: seen) s') cs'' a rest) :
    Gives (fields fs (fuel + 1) first seen s) cs a rest := by
  refine hkey.bind ?_
  simp only [hfind, hnew]
  exact (gives_colon cs').bind (htake.bind hrest)

theorem gives_fields_end (fuel : Nat) (first : Bool) (rest : List Char) :
    Gives (fields fs (fuel + 1) first seen s) ('\x7d' :: rest) (s, seen) ('\x7d' :: rest) :=
  (gives_nextKey_end first rest).bind (gives_pure _ _)

theorem Takes.gives_later (h : Takes fs seen s given seen' s') (rest : List Char) :
    ∀ fuel, given.length ≤ fuel →
      Gives (fields fs (fuel + 1) false seen s) (laterChars given ++ '\x7d' :: rest) (s', seen')
        ('\x7d' :: rest) := by
  induction h with
  | nil => exact fun fuel _ => gives_fields_end fuel false rest
  | @cons seen seen' s s' s'' k v f given hfind hnew htake hrest ih =>
      intro fuel hfuel
      obtain ⟨fuel, rfl⟩ : ∃ n, fuel = n + 1 := ⟨fuel - 1, by simp at hfuel; omega⟩
      have hchars : laterChars ((k, v) :: given) ++ '\x7d' :: rest
          = ',' :: (stringChars k ++ ':' :: (v.chars ++ (laterChars given ++ '\x7d' :: rest))) := by
        simp [laterChars]
      rw [hchars]
      exact gives_fields_of_key (gives_nextKey_later k _) hfind hnew
        (htake _ (follows_laterChars given rest)) (ih fuel (by simpa using hfuel))

theorem Takes.gives_fields (h : Takes fs seen s given seen' s') (rest : List Char) {fuel : Nat}
    (hfuel : given.length ≤ fuel) :
    Gives (fields fs (fuel + 1) true seen s) (Value.fieldChars given ++ '\x7d' :: rest) (s', seen')
      ('\x7d' :: rest) := by
  cases h with
  | nil => exact gives_fields_end fuel true rest
  | @cons _ _ _ s' _ k v f given hfind hnew htake hrest =>
      obtain ⟨fuel, rfl⟩ : ∃ n, fuel = n + 1 := ⟨fuel - 1, by simp at hfuel; omega⟩
      have hchars : Value.fieldChars ((k, v) :: given) ++ '\x7d' :: rest
          = stringChars k ++ ':' :: (v.chars ++ (laterChars given ++ '\x7d' :: rest)) := by
        simp [fieldChars_cons]
      rw [hchars]
      exact gives_fields_of_key (gives_nextKey_first k _) hfind hnew
        (htake _ (follows_laterChars given rest))
        (hrest.gives_later rest fuel (by simpa using hfuel))

theorem length_le_fieldChars (given : List (String × Value)) :
    given.length ≤ (Value.fieldChars given).length := by
  cases given with
  | nil => exact Nat.le_refl 0
  | cons f given =>
      have hlater : given.length ≤ (laterChars given).length := by
        induction given with
        | nil => exact Nat.le_refl 0
        | cons f given ih => simp only [laterChars, List.flatMap_cons, List.length_append,
            List.length_cons] at ih ⊢; omega
      rw [fieldChars_cons]
      simp only [List.length_append, List.length_cons]
      omega

/-- A record is read from an object whose fields it takes in. -/
theorem gives_record {name : String} {finish : Given → σ → Reader α} {a : α}
    (h : Takes fs [] s given seen s')
    (hfinish : ∀ cs, Gives (finish (.fields seen) s') cs a cs) (rest : List Char) :
    Gives (record name fs s finish) ((Value.object given).chars ++ rest) a rest := by
  have hchars : (Value.object given).chars ++ rest
      = '\x7b' :: (Value.fieldChars given ++ '\x7d' :: rest) := by
    simp [Value.chars]
  have hlength := length_le_fieldChars given
  rw [hchars]
  refine (gives_begin rfl _).bind (gives_placing_iff.mpr ((gives_advance '\x7b' _).bind ?_))
  refine gives_before_iff.mpr ⟨'\x7d' :: rest, ?_, gives_endFields rest⟩
  refine (gives_rest _).bind ((h.gives_fields rest ?_).bind (hfinish _))
  simp only [List.length_append, List.length_cons]
  omega

end TextSource

end CredRegistry.Json
