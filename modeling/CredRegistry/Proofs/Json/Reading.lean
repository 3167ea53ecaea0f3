import CredRegistry.Json.Reader
import CredRegistry.Proofs.Credential.Timestamp

/-!
# What readers take off a text

`Gives r cs a rest` says that `r` reads `a` off the front of `cs` and leaves `rest`. Each step of a
reader has a lemma that says so, and `Gives.bind` puts steps together; `gives_bind_iff` takes a
reader that has come to something apart again. Nothing unfolds the monad after that.

What is written is read back with more text behind it (`Follows`): strings by `gives_string`,
integers by `gives_number`.
-/

namespace CredRegistry.Json

open CredRegistry.Decimal

namespace Reader

variable {α β : Type} {r : Reader α} {a a' : α} {b : β} {cs cs' rest rest' : List Char}

/-- Reading off the front of `cs` comes to `a` and leaves `rest`. -/
def Gives (r : Reader α) (cs : List Char) (a : α) (rest : List Char) : Prop :=
  r.run.run cs = (.ok a, rest)

/-! ## Steps put together -/

theorem run_bind (r : Reader α) (f : α → Reader β) (cs : List Char) :
    (r >>= f).run.run cs = match r.run.run cs with
      | (.ok a, cs') => (f a).run.run cs'
      | (.error e, cs') => (.error e, cs') := by
  rcases h : r.run.run cs with ⟨outcome, cs'⟩
  simp only [ExceptT.run, StateT.run] at h
  cases outcome <;>
    simp only [ExceptT.run, StateT.run, bind, ExceptT.bind, StateT.bind, ExceptT.mk, h] <;> rfl

theorem gives_bind_iff {f : α → Reader β} :
    Gives (r >>= f) cs b rest ↔ ∃ a cs', Gives r cs a cs' ∧ Gives (f a) cs' b rest := by
  simp only [Gives, run_bind]
  rcases r.run.run cs with ⟨outcome, cs'⟩
  cases outcome with
  | error e =>
      constructor
      · exact nofun
      · rintro ⟨a, cs'', heq, -⟩
        cases heq
  | ok a =>
      constructor
      · exact fun h => ⟨a, cs', rfl, h⟩
      · rintro ⟨a', cs'', heq, h⟩
        cases heq
        exact h

theorem Gives.bind {f : α → Reader β} (hr : Gives r cs a cs') (hf : Gives (f a) cs' b rest) :
    Gives (r >>= f) cs b rest :=
  gives_bind_iff.mpr ⟨a, cs', hr, hf⟩

theorem gives_pure (a : α) (cs : List Char) : Gives (pure a) cs a cs := rfl

theorem gives_pure_iff : Gives (pure a) cs a' rest ↔ a = a' ∧ cs = rest := by
  constructor
  · intro h
    cases h
    exact ⟨rfl, rfl⟩
  · rintro ⟨rfl, rfl⟩
    rfl

theorem gives_map_iff {g : α → β} :
    Gives (g <$> r) cs b rest ↔ ∃ a, Gives r cs a rest ∧ g a = b := by
  have hmap : g <$> r = r >>= fun a => pure (g a) := rfl
  rw [hmap, gives_bind_iff]
  constructor
  · rintro ⟨a, cs', hr, hpure⟩
    obtain ⟨rfl, rfl⟩ := gives_pure_iff.mp hpure
    exact ⟨a, hr, rfl⟩
  · rintro ⟨a, hr, rfl⟩
    exact ⟨a, rest, hr, rfl⟩

theorem Gives.map (hr : Gives r cs a rest) (g : α → β) : Gives (g <$> r) cs (g a) rest :=
  gives_map_iff.mpr ⟨a, hr, rfl⟩

/-! ### Faults that are placed -/

theorem gives_placing_iff : Gives (placing r) cs a rest ↔ Gives r cs a rest := by
  unfold Gives
  rcases h : r.run.run cs with ⟨outcome, cs'⟩
  simp only [ExceptT.run, StateT.run] at h
  cases outcome with
  | ok a' =>
      simp only [placing, ExceptT.run, StateT.run, Bind.bind, StateT.bind, ExceptT.mk, tryCatch,
        tryCatchThe, MonadExceptOf.tryCatch, ExceptT.tryCatch, h]
      rfl
  | error fault =>
      obtain ⟨cause, left⟩ := fault
      simp only [placing, ExceptT.run, StateT.run, Bind.bind, StateT.bind, ExceptT.mk, tryCatch,
        tryCatchThe, MonadExceptOf.tryCatch, ExceptT.tryCatch, h]
      cases left <;> exact ⟨nofun, nofun⟩

theorem run_attempt (r : Reader α) (cs : List Char) :
    (attempt r).run.run cs = (.ok (r.run.run cs).1, (r.run.run cs).2) := by
  rcases h : r.run.run cs with ⟨outcome, cs'⟩
  simp only [ExceptT.run, StateT.run] at h
  cases outcome <;>
    simp only [attempt, ExceptT.run, StateT.run, Bind.bind, ExceptT.bind, StateT.bind, ExceptT.mk,
      tryCatch, tryCatchThe, MonadExceptOf.tryCatch, ExceptT.tryCatch, ExceptT.bindCont, h] <;> rfl

theorem gives_before_iff {after : Reader Unit} :
    Gives (before r after) cs a rest ↔ ∃ cs', Gives r cs a cs' ∧ Gives after cs' () rest := by
  unfold Gives
  simp only [before, run_bind, run_attempt]
  rcases r.run.run cs with ⟨outcome, cs'⟩
  rcases hafter : after.run.run cs' with ⟨ending, cs''⟩
  cases outcome with
  | error e =>
      constructor
      · exact nofun
      · rintro ⟨_, heq, -⟩
        cases heq
  | ok a' =>
      cases ending with
      | error e =>
          constructor
          · exact nofun
          · rintro ⟨_, heq, hend⟩
            cases heq
            cases hafter.symm.trans hend
      | ok u =>
          constructor
          · intro h
            cases h
            exact ⟨cs', rfl, hafter⟩
          · rintro ⟨_, heq, hend⟩
            cases heq
            cases hafter.symm.trans hend
            rfl

/-! ### Characters -/

theorem gives_rest (cs : List Char) : Gives Reader.rest cs cs cs := rfl

theorem gives_set (cs' cs : List Char) : Gives (set cs') cs () cs' := rfl

theorem gives_advance (c : Char) (cs : List Char) : Gives advance (c :: cs) () cs := rfl

theorem gives_next? (c : Char) (cs : List Char) : Gives next? (c :: cs) (some c) cs := rfl

theorem gives_peek? {c : Char} (hc : isSpace c = false) (cs : List Char) :
    Gives peek? (c :: cs) (some c) (c :: cs) := by
  have hdrop : (c :: cs).dropWhile isSpace = c :: cs := by
    rw [List.dropWhile_cons, hc]
    rfl
  change (Except.ok ((c :: cs).dropWhile isSpace).head?, (c :: cs).dropWhile isSpace) = _
  rw [hdrop]
  rfl

theorem gives_word (w cs : List Char) : Gives (word w) (w ++ cs) () cs := by
  induction w with
  | nil => exact gives_pure () cs
  | cons c w ih =>
      refine (gives_next? c (w ++ cs)).bind ?_
      simpa using ih

/-! ## Strings -/

theorem hex4?_hexDigit : ∀ n < 0x20, hex4? '0' '0' (hexDigit (n / 16)) (hexDigit n) = some n := by
  decide

/-- A character is read back from the way it is written. -/
theorem stringBody_escapedChar (c : Char) (cs done : List Char) :
    stringBody (escapedChar c ++ cs) done = stringBody cs (c :: done) := by
  unfold escapedChar
  split
  · simp [stringBody, escaped?]
  · simp [stringBody, escaped?]
  · simp [stringBody, escaped?]
  · simp [stringBody, escaped?]
  · simp [stringBody, escaped?]
  · simp [stringBody, escaped?]
  · simp [stringBody, escaped?]
  next hquote hback _ _ _ _ _ =>
    split
    next hcontrol =>
      have hsmall : c.toNat < 0xD800 := by omega
      have hlow : ¬ (0xDC00 ≤ c.toNat) := by omega
      simp [stringBody, hex4?_hexDigit c.toNat hcontrol, hsmall, hlow]
    next hcontrol =>
      rw [List.singleton_append, stringBody, if_neg hcontrol]
      · exact hquote
      · exact fun _ _ _ _ _ hc _ => hback hc
      · exact fun _ _ hc _ => hback hc
      · exact fun hc _ => hback hc

theorem stringBody_escaped (cs : List Char) :
    ∀ done, stringBody (cs.flatMap escapedChar ++ '"' :: rest) done
      = .ok (done.reverse ++ cs, rest) := by
  induction cs with
  | nil =>
      intro done
      simp [stringBody]
  | cons c cs ih =>
      intro done
      rw [List.flatMap_cons, List.append_assoc, stringBody_escapedChar, ih]
      simp

theorem stringChars_append (s : String) (rest : List Char) :
    stringChars s ++ rest = '"' :: (s.toList.flatMap escapedChar ++ '"' :: rest) := by
  simp [stringChars]

theorem gives_string (s : String) (rest : List Char) :
    Gives Reader.string (s.toList.flatMap escapedChar ++ '"' :: rest) s rest := by
  refine (gives_rest _).bind ?_
  rw [stringBody_escaped]
  simp only [List.reverse_nil, List.nil_append, String.ofList_toList]
  rfl

/-! ## Integers -/

/-- What can stand behind a value: nothing, or a character that ends it. -/
def Follows (rest : List Char) : Prop := ∀ c ∈ rest.head?, c = ',' ∨ c = ']' ∨ c = '\x7d'

theorem Follows.isDigit (h : Follows rest) : ∀ c ∈ rest.head?, c.isDigit = false := by
  intro c hc
  rcases h c hc with rfl | rfl | rfl <;> rfl

theorem Follows.takeWhile_isDigit (h : Follows rest) : rest.takeWhile Char.isDigit = [] := by
  cases rest with
  | nil => rfl
  | cons c rest => simp [h.isDigit c rfl]

theorem Follows.dropWhile_isDigit (h : Follows rest) : rest.dropWhile Char.isDigit = rest := by
  cases rest with
  | nil => rfl
  | cons c rest => simp [h.isDigit c rfl]

theorem digitValue?_of_not_isDigit {c : Char} (h : c.isDigit = false) :
    digitValue? 10 c = none := by
  unfold digitValue?
  simp only [h, Bool.false_eq_true, if_false]
  split
  · exact if_neg (by omega)
  · split
    · exact if_neg (by omega)
    · rfl

theorem le_ofDigitChars (ds : List Char) : ∀ n, n ≤ Nat.ofDigitChars 10 ds n := by
  induction ds with
  | nil => simp
  | cons d ds ih =>
      intro n
      rw [Nat.ofDigitChars_cons]
      exact Nat.le_trans (by omega) (ih (10 * n + (d.toNat - '0'.toNat)))

theorem takeDigits_of_isDigit {bound : Nat} {ds : List Char}
    (hrest : ∀ c ∈ rest.head?, c.isDigit = false) (hds : ∀ d ∈ ds, d.isDigit = true) :
    ∀ n count, Nat.ofDigitChars 10 ds n < bound →
      takeDigits bound (ds ++ rest) n count
        = (Nat.ofDigitChars 10 ds n, count + ds.length, rest) := by
  induction ds with
  | nil =>
      intro n count _
      cases rest with
      | nil => simp [takeDigits]
      | cons c rest => simp [takeDigits, digitValue?_of_not_isDigit (hrest c rfl)]
  | cons d ds ih =>
      intro n count hbound
      rw [Nat.ofDigitChars_cons] at hbound
      have hfits : 10 * n + (d.toNat - '0'.toNat) < bound :=
        Nat.lt_of_le_of_lt (le_ofDigitChars ds _) hbound
      have hds' : ∀ c ∈ ds, c.isDigit = true := fun c hc => hds c (List.mem_cons_of_mem d hc)
      rw [List.cons_append, takeDigits,
        Decimal.digitValue?_of_isDigit (hds d List.mem_cons_self)]
      simp only [if_pos hfits, ih hds' _ _ hbound, Nat.ofDigitChars_cons, List.length_cons]
      congr 2
      omega

/-- A numeral does not begin with a zero, but for zero itself. -/
theorem toDigits_eq_cons {n : Nat} (hn : n ≠ 0) :
    ∃ d ds, Nat.toDigits 10 n = d :: ds ∧ d ≠ '0' := by
  induction n using Nat.strongRecOn with
  | ind n ih =>
    by_cases hsmall : n < 10
    · have hdigit : ∀ m < 10, m ≠ 0 → m.digitChar ≠ '0' := by decide
      exact ⟨n.digitChar, [], Nat.toDigits_of_lt_base hsmall, hdigit n hsmall hn⟩
    · rw [Nat.toDigits_of_base_le (by decide) (by omega)]
      obtain ⟨d, ds, hds, hd⟩ := ih (n / 10) (by omega) (by omega)
      exact ⟨d, ds ++ [(n % 10).digitChar], by rw [hds, List.cons_append], hd⟩

theorem isDigit_head_toDigits (n : Nat) :
    ∃ d ds, Nat.toDigits 10 n = d :: ds ∧ d.isDigit = true := by
  cases hds : Nat.toDigits 10 n with
  | nil => exact absurd hds Nat.toDigits_ne_nil
  | cons d ds =>
      refine ⟨d, ds, rfl, Nat.isDigit_of_mem_toDigits (b := 10) (n := n) (by decide) (by decide) ?_⟩
      rw [hds]
      exact List.mem_cons_self

/-- An integer is written as a numeral, behind a minus sign if it is below zero. -/
theorem toList_toString (n : Int) :
    (∃ m : Nat, n = m ∧ (toString n).toList = Nat.toDigits 10 m) ∨
      ∃ m : Nat, m ≠ 0 ∧ n = -(m : Int) ∧ (toString n).toList = '-' :: Nat.toDigits 10 m := by
  have hrepr : toString n = n.repr := rfl
  rw [hrepr, Int.repr_eq_if]
  by_cases hn : 0 ≤ n
  · refine .inl ⟨n.toNat, (Int.toNat_of_nonneg hn).symm, ?_⟩
    rw [if_pos hn, Nat.repr_eq_ofList_toDigits, String.toList_ofList]
  · refine .inr ⟨(-n).toNat, by omega, by omega, ?_⟩
    rw [if_neg hn, Nat.repr_eq_ofList_toDigits, String.toList_append, String.toList_ofList,
      String.toList_ofList]
    rfl

theorem gives_integerEnd (negative : Bool) (m : Nat) (h : Follows rest) :
    Gives (integerEnd negative m) rest (ofSigned negative m) rest := by
  refine (gives_rest rest).bind ?_
  cases rest with
  | nil => exact gives_pure _ _
  | cons c rest => rcases h c rfl with rfl | rfl | rfl <;> exact gives_pure _ _

/-- A numeral of at most 64 bits is read back. -/
theorem gives_number {m : Nat} (hm : m < 0x10000000000000000) (negative : Bool)
    (h : Follows rest) :
    Gives (number negative) (Nat.toDigits 10 m ++ rest) (ofSigned negative m) rest := by
  by_cases hzero : m = 0
  · rw [hzero, Nat.toDigits_zero]
    refine (gives_next? '0' rest).bind ((gives_rest rest).bind ?_)
    cases rest with
    | nil => exact gives_integerEnd negative 0 h
    | cons c rest =>
        have hc := h.isDigit c rfl
        simp only [List.head?_cons, hc, Bool.false_eq_true, if_false]
        exact gives_integerEnd negative 0 h
  · obtain ⟨d, ds, hds, hd⟩ := toDigits_eq_cons hzero
    have hdigits : ∀ c ∈ d :: ds, c.isDigit = true := by
      intro c hc
      rw [← hds] at hc
      exact Nat.isDigit_of_mem_toDigits (by decide) (by decide) hc
    have hvalue : Nat.ofDigitChars 10 ds (d.toNat - '0'.toNat) = m := by
      have := Nat.ofDigitChars_ten_toDigits (n := m)
      rw [hds, Nat.ofDigitChars_cons] at this
      simpa using this
    have htake : takeDigits 0x10000000000000000 (ds ++ rest) (d.toNat - '0'.toNat) 0
        = (m, 0 + ds.length, rest) := by
      rw [takeDigits_of_isDigit h.isDigit
        (fun c hc => hdigits c (List.mem_cons_of_mem d hc)) _ _ (hvalue ▸ hm), hvalue]
    rw [hds]
    refine (gives_next? d (ds ++ rest)).bind ?_
    split
    next heq => cases heq
    next heq => exact absurd (Option.some.inj heq) hd
    next c _ heq =>
      cases heq
      have hsome := Decimal.digitValue?_of_isDigit (hdigits d List.mem_cons_self)
      simp only [hsome]
      refine (gives_rest _).bind ?_
      simp only [htake, h.takeWhile_isDigit, h.dropWhile_isDigit]
      exact (gives_set rest (ds ++ rest)).bind (gives_integerEnd negative m h)

theorem ofSigned_true {m : Nat} (hm : m ≠ 0) (hbits : m ≤ 0x8000000000000000) :
    ofSigned true m = .int (-(m : Int)) := by
  have hrange : (decide (1 ≤ m) && decide (m ≤ 0x8000000000000000)) = true := by
    simp only [Bool.and_eq_true, decide_eq_true_eq]
    omega
  simp only [ofSigned, hrange, Bool.not_true, Bool.false_eq_true, if_false, if_true]

theorem not_isSpace_of_isDigit {c : Char} (hc : c.isDigit = true) : isSpace c = false := by
  cases hspace : isSpace c with
  | false => rfl
  | true =>
      simp only [isSpace, Bool.or_eq_true, beq_iff_eq] at hspace
      rcases hspace with ((rfl | rfl) | rfl) | rfl <;> cases hc

/-- An integer begins with its sign or a digit. -/
theorem toString_eq_cons (n : Int) :
    ∃ c cs, (toString n).toList = c :: cs ∧ isSpace c = false ∧
      (c == '-' || c.isDigit) = true := by
  rcases toList_toString n with ⟨m, rfl, hchars⟩ | ⟨m, -, rfl, hchars⟩
  · obtain ⟨d, ds, hds, hd⟩ := isDigit_head_toDigits m
    exact ⟨d, ds, hchars.trans hds, not_isSpace_of_isDigit hd, by simp [hd]⟩
  · exact ⟨'-', Nat.toDigits 10 m, hchars, rfl, rfl⟩

/-- An integer of at most 64 bits is read back with its sign. -/
theorem gives_signed {n : Int} (hn : -0x8000000000000000 ≤ n ∧ n < 0x10000000000000000)
    {c : Char} (hchars : (toString n).toList = c :: cs) (h : Follows rest)
    {f : Number → Reader β} (hf : Gives (f (.int n)) rest b rest') :
    Gives (if c == '-' then advance >>= fun _ => number (c == '-') >>= f
      else number (c == '-') >>= f) (c :: cs ++ rest) b rest' := by
  rcases toList_toString n with ⟨m, rfl, hdigits⟩ | ⟨m, hm, rfl, hdigits⟩
  · obtain ⟨d, ds, hds, hd⟩ := isDigit_head_toDigits m
    have hnumber := gives_number (m := m) (by omega) false h
    rw [hds] at hdigits hnumber
    cases hchars.symm.trans hdigits
    have hsign : (c == '-') = false := by
      rw [beq_eq_false_iff_ne]
      rintro rfl
      cases hd
    simp only [hsign, Bool.false_eq_true, if_false]
    exact hnumber.bind hf
  · have hnumber := gives_number (m := m) (by omega) true h
    rw [ofSigned_true hm (by omega)] at hnumber
    cases hchars.symm.trans hdigits
    exact (gives_advance '-' _).bind (hnumber.bind hf)

/-! ## Fields -/

theorem gives_nextKey_first (k : String) (rest : List Char) :
    Gives (nextKey true) (stringChars k ++ rest) (some k) rest := by
  rw [stringChars_append]
  exact (gives_peek? rfl _).bind ((gives_advance '"' _).bind ((gives_string k rest).map some))

theorem gives_nextKey_later (k : String) (rest : List Char) :
    Gives (nextKey false) (',' :: (stringChars k ++ rest)) (some k) rest := by
  rw [stringChars_append]
  refine (gives_peek? rfl _).bind ((gives_advance ',' _).bind ((gives_peek? rfl _).bind ?_))
  exact (gives_advance '"' _).bind ((gives_string k rest).map some)

theorem gives_nextKey_end (first : Bool) (rest : List Char) :
    Gives (nextKey first) ('\x7d' :: rest) none ('\x7d' :: rest) :=
  (gives_peek? rfl rest).bind (gives_pure none _)

theorem gives_colon (rest : List Char) : Gives colon (':' :: rest) () rest :=
  (gives_peek? rfl rest).bind (gives_advance ':' rest)

theorem gives_endFields (rest : List Char) : Gives endFields ('\x7d' :: rest) () rest :=
  (gives_peek? rfl rest).bind (gives_advance '\x7d' rest)

end Reader

/-! ## Whole texts -/

theorem read_eq_ok_iff {α : Type} {text : String} {r : Reader α} {a : α} :
    read text r = .ok a ↔
      ∃ rest, r.Gives text.toList a rest ∧ rest.dropWhile Reader.isSpace = [] := by
  have hpeek (cs : List Char) : Reader.peek?.run.run cs
      = (.ok (cs.dropWhile Reader.isSpace).head?, cs.dropWhile Reader.isSpace) := rfl
  unfold Reader.Gives read
  simp only [Reader.run_bind]
  rcases r.run.run text.toList with ⟨outcome, rest⟩
  cases outcome with
  | error fault =>
      constructor
      · exact nofun
      · rintro ⟨_, heq, -⟩
        cases heq
  | ok a' =>
      simp only [hpeek]
      cases hrest : rest.dropWhile Reader.isSpace with
      | nil =>
          constructor
          · intro h
            cases h
            exact ⟨rest, rfl, hrest⟩
          · rintro ⟨_, heq, -⟩
            cases heq
            rfl
      | cons c cs =>
          constructor
          · exact nofun
          · rintro ⟨_, heq, hnil⟩
            cases heq
            cases hrest.symm.trans hnil

end CredRegistry.Json
