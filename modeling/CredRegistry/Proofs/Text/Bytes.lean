import CredRegistry.Text.Hex
import Mathlib.Data.List.Forall2
import Mathlib.Tactic.SplitIfs

/-!
# Texts come back from their bytes

Two ways of writing are undone by reading: a text as UTF-8 (`fromUtf8_utf8`) and bytes as
hexadecimal digits (`Hex.decode_encode`). Both go piece by piece. One step of the reader
takes off just what was written for one character (`utf8Step_encodeChar`) or one byte
(`Hex.byte?_of_spells`).

The reader of UTF-8 accepts nothing else: what one step takes off is what is written for that
character (`encodeChar_of_utf8Step`), so a text has one sequence of bytes (`fromUtf8_eq_ok`).
Digits can be respelled in upper case (`Hex.decode_of_respelled`).
-/

namespace CredRegistry.Text

/-! ## UTF-8 -/

/-- The loop that lists the bytes of an array, with `k` of them still to come. -/
theorem toList_loop (bs : ByteArray) : ∀ (k i : Nat) (seen : List UInt8), i + k = bs.size →
    ByteArray.toList.loop bs i seen = seen.reverse ++ bs.data.toList.drop i
  | 0, i, seen, h => by
      have hdone : bs.data.toList.drop i = [] :=
        List.drop_eq_nil_of_le (Nat.le_of_eq (by rw [Array.length_toList]; exact h.symm))
      rw [ByteArray.toList.loop, if_neg (by omega), hdone, List.append_nil]
  | k + 1, i, seen, h => by
      have hi : i < bs.data.size := by
        change i < bs.size
        omega
      have hnext : bs.get! i :: bs.data.toList.drop (i + 1) = bs.data.toList.drop i := by
        rw [List.drop_eq_getElem_cons (i := i) (by simpa using hi), Array.getElem_toList]
        congr 1
        exact getElem!_pos bs.data i hi
      rw [ByteArray.toList.loop, if_pos (show i < bs.size from hi),
        toList_loop bs k (i + 1) _ (by omega), List.reverse_cons, List.append_assoc,
        List.singleton_append, hnext]

theorem utf8_eq (s : String) : utf8 s = s.toList.flatMap String.utf8EncodeChar := by
  have hbytes : s.toUTF8.data.toList = s.toList.flatMap String.utf8EncodeChar := by
    rw [String.toUTF8_eq_toByteArray]
    conv => lhs; rw [← String.ofList_toList (s := s)]
    rw [String.toByteArray_ofList, List.utf8Encode, List.toList_data_toByteArray]
  rw [utf8, ByteArray.toList, toList_loop _ _ 0 [] (Nat.zero_add _), hbytes]
  rfl

theorem utf8Tail_succ {count n length v : Nat} (hv : v < 64) (bs : List UInt8) :
    utf8Tail (count + 1) n length (UInt8.ofNat (v + 0x80) :: bs)
      = utf8Tail count (64 * n + v) (length + 1) bs := by
  have hbyte : (UInt8.ofNat (v + 0x80)).toNat = v + 0x80 := UInt8.toNat_ofNat_of_lt' (by
    simp only [UInt8.size]; omega)
  have hcontinues : isContinuation (UInt8.ofNat (v + 0x80)) = true := by
    rw [isContinuation, hbyte, beq_iff_eq]
    omega
  rw [utf8Tail, if_pos hcontinues, hbyte]
  congr 2
  omega

theorem utf8Step_lead {n v count low high : Nat} (hn : n < 256) (hv : v < 64)
    (hlead : continuation? (UInt8.ofNat n) = some (count + 1, low, high))
    (hlow : low ≤ v + 0x80) (hhigh : v + 0x80 ≤ high) (bs : List UInt8) :
    utf8Step (UInt8.ofNat n) (UInt8.ofNat (v + 0x80) :: bs)
      = utf8Tail count (64 * (n % (1 <<< (5 - count))) + v) 2 bs := by
  have hbyte : (UInt8.ofNat (v + 0x80)).toNat = v + 0x80 := UInt8.toNat_ofNat_of_lt' (by
    simp only [UInt8.size]; omega)
  have hfirst : (UInt8.ofNat n).toNat = n := UInt8.toNat_ofNat_of_lt' hn
  have hbounds : (decide (low ≤ v + 0x80) && decide (v + 0x80 ≤ high)) = true := by
    simp only [hlow, hhigh, decide_true, Bool.and_true]
  simp only [utf8Step, hlead, hbyte, hfirst]
  rw [if_pos hbounds]
  congr 2
  omega

theorem continuation?_two {v : Nat} (h : 0x7F < v) (h' : v ≤ 0x7FF) :
    continuation? (UInt8.ofNat (v / 64 % 0x20 + 0xC0)) = some (1, 0x80, 0xBF) := by
  have hbyte : (UInt8.ofNat (v / 64 % 0x20 + 0xC0)).toNat = v / 64 % 0x20 + 0xC0 :=
    UInt8.toNat_ofNat_of_lt' (by simp only [UInt8.size]; omega)
  simp only [continuation?, hbyte]
  rw [if_neg (by omega), if_neg (by omega), if_pos (by omega)]

/-- The bounds of the second of three bytes shut out overlong forms and surrogates only. -/
theorem continuation?_three {v : Nat} (h : 0x7FF < v) (h' : v ≤ 0xFFFF)
    (hvalid : v < 0xD800 ∨ 0xDFFF < v) : ∃ low high,
      continuation? (UInt8.ofNat (v / 4096 % 0x10 + 0xE0)) = some (2, low, high) ∧
        low ≤ v / 64 % 0x40 + 0x80 ∧ v / 64 % 0x40 + 0x80 ≤ high := by
  have hbyte : (UInt8.ofNat (v / 4096 % 0x10 + 0xE0)).toNat = v / 4096 % 0x10 + 0xE0 :=
    UInt8.toNat_ofNat_of_lt' (by simp only [UInt8.size]; omega)
  simp only [continuation?, hbyte, beq_iff_eq]
  rw [if_neg (by omega), if_neg (by omega), if_neg (by omega)]
  by_cases hshort : v / 4096 = 0
  · exact ⟨_, _, if_pos (by omega), by omega, by omega⟩
  · rw [if_neg (by omega)]
    by_cases hsurrogate : v / 4096 = 13
    · exact ⟨_, _, if_pos (by omega), by omega, by omega⟩
    · rw [if_neg (by omega)]
      exact ⟨_, _, if_pos (by omega), by omega, by omega⟩

theorem continuation?_four {v : Nat} (h : 0xFFFF < v) (h' : v < 0x110000) : ∃ low high,
    continuation? (UInt8.ofNat (v / 262144 % 0x08 + 0xF0)) = some (3, low, high) ∧
      low ≤ v / 4096 % 0x40 + 0x80 ∧ v / 4096 % 0x40 + 0x80 ≤ high := by
  have hbyte : (UInt8.ofNat (v / 262144 % 0x08 + 0xF0)).toNat = v / 262144 % 0x08 + 0xF0 :=
    UInt8.toNat_ofNat_of_lt' (by simp only [UInt8.size]; omega)
  simp only [continuation?, hbyte, beq_iff_eq]
  rw [if_neg (by omega), if_neg (by omega), if_neg (by omega), if_neg (by omega),
    if_neg (by omega), if_neg (by omega)]
  by_cases hshort : v / 262144 = 0
  · exact ⟨_, _, if_pos (by omega), by omega, by omega⟩
  · rw [if_neg (by omega)]
    by_cases hlast : v / 262144 = 4
    · rw [if_neg (by omega)]
      exact ⟨_, _, if_pos (by omega), by omega, by omega⟩
    · exact ⟨_, _, if_pos (by omega), by omega, by omega⟩

theorem utf8Step_encodeChar (c : Char) (rest : List UInt8) :
    ∃ b bs, String.utf8EncodeChar c = b :: bs ∧ utf8Step b (bs ++ rest) = .char c rest := by
  have hc : Char.ofNat c.val.toNat = c := Char.ofNat_toNat c
  have hvalid : c.val.toNat < 0xD800 ∨ 0xDFFF < c.val.toNat ∧ c.val.toNat < 0x110000 := c.valid
  unfold String.utf8EncodeChar
  generalize c.val.toNat = v at hc hvalid ⊢
  -- The number of bytes decides which lead byte there is and how often the tail goes on.
  by_cases h₁ : v ≤ 0x7F
  · refine ⟨_, _, if_pos h₁, ?_⟩
    have hbyte : (UInt8.ofNat v).toNat = v := UInt8.toNat_ofNat_of_lt' (by
      simp only [UInt8.size]; omega)
    have hlead : continuation? (UInt8.ofNat v) = some (0, 0, 0) := by
      simp only [continuation?, hbyte]
      rw [if_pos (by omega)]
    simp only [utf8Step, hlead, hbyte, hc, List.nil_append]
  by_cases h₂ : v ≤ 0x7FF
  · refine ⟨_, _, (if_neg h₁).trans (if_pos h₂), ?_⟩
    have hlead := continuation?_two (by omega) h₂
    rw [List.singleton_append, utf8Step_lead (by omega) (by omega) hlead (by omega) (by omega),
      utf8Tail]
    congr 1
    rw [← hc, show 1 <<< (5 - 0) = 32 from rfl]
    congr 1
    omega
  by_cases h₃ : v ≤ 0xFFFF
  · refine ⟨_, _, (if_neg h₁).trans ((if_neg h₂).trans (if_pos h₃)), ?_⟩
    obtain ⟨low, high, hlead, hlow, hhigh⟩ := continuation?_three (by omega) h₃ (by omega)
    rw [List.cons_append, List.singleton_append,
      utf8Step_lead (by omega) (by omega) hlead hlow hhigh, utf8Tail_succ (by omega), utf8Tail]
    congr 1
    rw [← hc, show 1 <<< (5 - 1) = 16 from rfl]
    congr 1
    omega
  · refine ⟨_, _, (if_neg h₁).trans ((if_neg h₂).trans (if_neg h₃)), ?_⟩
    obtain ⟨low, high, hlead, hlow, hhigh⟩ := continuation?_four (v := v) (by omega) (by omega)
    rw [List.cons_append, List.cons_append, List.singleton_append,
      utf8Step_lead (by omega) (by omega) hlead hlow hhigh, utf8Tail_succ (by omega),
      utf8Tail_succ (by omega), utf8Tail]
    congr 1
    rw [← hc, show 1 <<< (5 - 2) = 8 from rfl]
    congr 1
    omega

theorem fromUtf8Go_encode (cs : List Char) : ∀ {fuel : Nat} (index : Nat),
    (cs.flatMap String.utf8EncodeChar).length ≤ fuel →
      fromUtf8Go fuel index (cs.flatMap String.utf8EncodeChar) = .ok cs := by
  induction cs with
  | nil =>
      intro fuel index _
      cases fuel <;> rfl
  | cons c cs ih =>
      intro fuel index hfuel
      obtain ⟨b, bs, hbytes, hstep⟩ :=
        utf8Step_encodeChar c (cs.flatMap String.utf8EncodeChar)
      rw [List.flatMap_cons, hbytes, List.cons_append] at hfuel ⊢
      cases fuel with
      | zero => simp at hfuel
      | succ fuel =>
          have hrest : (cs.flatMap String.utf8EncodeChar).length ≤ fuel := by
            simp only [List.length_cons, List.length_append] at hfuel
            omega
          rw [fromUtf8Go, hstep]
          simp only [ih _ hrest]
          rfl

/-- A text is read from its bytes. -/
theorem fromUtf8_utf8 (s : String) : fromUtf8 (utf8 s) = .ok s := by
  rw [fromUtf8, utf8_eq, fromUtf8Go_encode s.toList 0 (Nat.le_refl _)]
  simp [Except.map]

/-! ### Nothing else is a text -/

/-- The first bytes of characters, with what can follow them. -/
theorem continuation?_cases {b : UInt8} {count low high : Nat}
    (h : continuation? b = some (count, low, high)) :
    (count = 0 ∧ b.toNat < 0x80) ∨
      (count = 1 ∧ 0xC2 ≤ b.toNat ∧ b.toNat < 0xE0 ∧ 0x80 ≤ low ∧ high ≤ 0xBF) ∨
      (count = 2 ∧ 0xE0 ≤ b.toNat ∧ b.toNat < 0xF0 ∧ 0x80 ≤ low ∧ high ≤ 0xBF ∧
        (b.toNat = 0xE0 → 0xA0 ≤ low) ∧ (b.toNat = 0xED → high ≤ 0x9F)) ∨
      (count = 3 ∧ 0xF0 ≤ b.toNat ∧ b.toNat ≤ 0xF4 ∧ 0x80 ≤ low ∧ high ≤ 0xBF ∧
        (b.toNat = 0xF0 → 0x90 ≤ low) ∧ (b.toNat = 0xF4 → high ≤ 0x8F)) := by
  simp only [continuation?, beq_iff_eq] at h
  split_ifs at h <;> cases h <;> omega

/-- One more byte of a character that goes on. -/
theorem utf8Tail_eq_char {count n length : Nat} {bs rest : List UInt8} {c : Char}
    (h : utf8Tail (count + 1) n length bs = .char c rest) :
    ∃ v < 64, ∃ bs', bs = UInt8.ofNat (v + 0x80) :: bs' ∧
      utf8Tail count (64 * n + v) (length + 1) bs' = .char c rest := by
  cases bs with
  | nil => cases h
  | cons b bs' =>
      rw [utf8Tail] at h
      split at h
      next hb =>
        rw [isContinuation, beq_iff_eq] at hb
        refine ⟨b.toNat % 64, Nat.mod_lt _ (by decide), bs', ?_, h⟩
        rw [show b.toNat % 64 + 0x80 = b.toNat by omega, UInt8.ofNat_toNat]
      next => cases h

theorem utf8Step_eq_char {b : UInt8} {bs rest : List UInt8} {c : Char}
    (h : utf8Step b bs = .char c rest) :
    (b.toNat < 0x80 ∧ c = Char.ofNat b.toNat ∧ rest = bs) ∨
      ∃ count low high v bs', continuation? b = some (count + 1, low, high) ∧ low ≤ v ∧ v ≤ high ∧
        bs = UInt8.ofNat v :: bs' ∧
        utf8Tail count (64 * (b.toNat % (1 <<< (5 - count))) + v % 64) 2 bs' = .char c rest := by
  unfold utf8Step at h
  split at h
  · cases h
  next hlead =>
    cases h
    rcases continuation?_cases hlead with ⟨-, hb⟩ | ⟨hcount, -⟩ | ⟨hcount, -⟩ | ⟨hcount, -⟩
    · exact .inl ⟨hb, rfl, rfl⟩
    · cases hcount
    · cases hcount
    · cases hcount
  next count low high hlead =>
    split at h
    · cases h
    next d bs' =>
      split at h
      next hbounds =>
        rw [Bool.and_eq_true, decide_eq_true_eq, decide_eq_true_eq] at hbounds
        exact .inr ⟨count, low, high, d.toNat, bs', hlead, hbounds.1, hbounds.2,
          by rw [UInt8.ofNat_toNat], h⟩
      next => cases h

/-- The bytes of a character with a number, by how many there are. -/
theorem encodeChar_ofNat {n : Nat} (h : n < 0xD800 ∨ 0xDFFF < n ∧ n < 0x110000) :
    String.utf8EncodeChar (Char.ofNat n) =
      if n ≤ 0x7F then [UInt8.ofNat n]
      else if n ≤ 0x7FF then [UInt8.ofNat (n / 64 % 0x20 + 0xC0), UInt8.ofNat (n % 64 + 0x80)]
      else if n ≤ 0xFFFF then [UInt8.ofNat (n / 4096 % 0x10 + 0xE0),
        UInt8.ofNat (n / 64 % 64 + 0x80), UInt8.ofNat (n % 64 + 0x80)]
      else [UInt8.ofNat (n / 262144 % 0x08 + 0xF0), UInt8.ofNat (n / 4096 % 64 + 0x80),
        UInt8.ofNat (n / 64 % 64 + 0x80), UInt8.ofNat (n % 64 + 0x80)] := by
  have hvalid : n.isValidChar := h
  have hn : (Char.ofNat n).val.toNat = n := by
    rw [Char.ofNat, dif_pos hvalid]
    rfl
  rw [String.utf8EncodeChar, hn]

/-- A character that was taken off the front of some bytes is written as just those bytes. -/
theorem encodeChar_of_utf8Step {b : UInt8} {bs rest : List UInt8} {c : Char}
    (h : utf8Step b bs = .char c rest) : String.utf8EncodeChar c ++ rest = b :: bs := by
  have hb (n : Nat) (hn : n = b.toNat) : UInt8.ofNat n = b := by rw [hn, UInt8.ofNat_toNat]
  rcases utf8Step_eq_char h with
    ⟨hlt, rfl, rfl⟩ | ⟨count, low, high, v, bs, hlead, hlow, hhigh, rfl, htail⟩
  · rw [encodeChar_ofNat (.inl (by omega)), if_pos (by omega), hb _ rfl]
    rfl
  rcases continuation?_cases hlead with ⟨hcount, -⟩ | ⟨hcount, hfirst⟩ | ⟨hcount, hfirst⟩ |
    ⟨hcount, hfirst⟩
  · cases hcount
  · obtain rfl : count = 0 := by omega
    rw [utf8Tail, show 1 <<< (5 - 0) = 32 from rfl] at htail
    cases htail
    rw [encodeChar_ofNat (.inl (by omega)), if_neg (by omega), if_pos (by omega),
      hb _ (by omega)]
    simp only [List.cons_append, List.nil_append, List.cons.injEq, true_and, and_true]
    exact congrArg UInt8.ofNat (by omega)
  · obtain rfl : count = 1 := by omega
    obtain ⟨w, hw, bs₁, rfl, htail₁⟩ := utf8Tail_eq_char htail
    rw [utf8Tail, show 1 <<< (5 - 1) = 16 from rfl] at htail₁
    cases htail₁
    rw [encodeChar_ofNat (by omega), if_neg (by omega), if_neg (by omega), if_pos (by omega),
      hb _ (by omega)]
    simp only [List.cons_append, List.nil_append, List.cons.injEq, true_and, and_true]
    exact ⟨congrArg UInt8.ofNat (by omega), congrArg UInt8.ofNat (by omega)⟩
  · obtain rfl : count = 2 := by omega
    obtain ⟨w, hw, bs₁, rfl, htail₁⟩ := utf8Tail_eq_char htail
    obtain ⟨x, hx, bs₂, rfl, htail₂⟩ := utf8Tail_eq_char htail₁
    rw [utf8Tail, show 1 <<< (5 - 2) = 8 from rfl] at htail₂
    cases htail₂
    rw [encodeChar_ofNat (by omega), if_neg (by omega), if_neg (by omega), if_neg (by omega),
      hb _ (by omega)]
    simp only [List.cons_append, List.nil_append, List.cons.injEq, true_and, and_true]
    exact ⟨congrArg UInt8.ofNat (by omega), congrArg UInt8.ofNat (by omega),
      congrArg UInt8.ofNat (by omega)⟩

theorem eq_encode_of_fromUtf8Go {fuel : Nat} : ∀ {index : Nat} {bs : List UInt8} {cs : List Char},
    fromUtf8Go fuel index bs = .ok cs → bs = cs.flatMap String.utf8EncodeChar := by
  induction fuel with
  | zero =>
      intro index bs cs h
      cases bs with
      | nil =>
          cases h
          rfl
      | cons => cases h
  | succ fuel ih =>
      intro index bs cs h
      cases bs with
      | nil =>
          cases h
          rfl
      | cons b bs =>
          rw [fromUtf8Go] at h
          split at h
          next c rest hstep =>
            cases hrest : fromUtf8Go fuel (index + c.utf8Size) rest with
            | error fault =>
                rw [hrest] at h
                cases h
            | ok ds =>
                rw [hrest] at h
                cases h
                rw [List.flatMap_cons, ← ih hrest, encodeChar_of_utf8Step hstep]
          · cases h
          · cases h

/-- Only the bytes of a text are read as that text. -/
theorem fromUtf8_eq_ok {bs : List UInt8} {s : String} : fromUtf8 bs = .ok s ↔ bs = utf8 s := by
  constructor
  · intro h
    rw [fromUtf8] at h
    cases hcs : fromUtf8Go bs.length 0 bs with
    | error fault =>
        rw [hcs] at h
        cases h
    | ok cs =>
        rw [hcs] at h
        cases h
        rw [utf8_eq, String.toList_ofList]
        exact eq_encode_of_fromUtf8Go hcs
  · rintro rfl
    exact fromUtf8_utf8 s

theorem length_le_byteLength (cs : List Char) : cs.length ≤ byteLength cs := by
  have hgrows : ∀ (n : Nat), n + cs.length ≤ cs.foldl (fun n c => n + c.utf8Size) n := by
    induction cs with
    | nil => simp
    | cons c cs ih =>
        intro n
        have hc := c.utf8Size_pos
        have htail := ih (n + c.utf8Size)
        rw [List.foldl_cons, List.length_cons]
        omega
  simpa [byteLength] using hgrows 0

theorem utf8Size_of_ascii {c : Char} (h : c.toNat < 0x80) : c.utf8Size = 1 := by
  rw [Char.utf8Size_eq_one_iff, UInt32.le_iff_toNat_le]
  exact Nat.le_of_lt_succ h

theorem utf8ByteSize_of_ascii {cs : List Char} (h : ∀ c ∈ cs, c.toNat < 0x80) :
    (String.ofList cs).utf8ByteSize = cs.length := by
  induction cs with
  | nil => rfl
  | cons c cs ih =>
      have hc : c.utf8Size = 1 := utf8Size_of_ascii (h c (List.mem_cons_self ..))
      have hcons : String.ofList (c :: cs) = String.singleton c ++ String.ofList cs := by
        rw [String.singleton_eq_ofList, ← String.ofList_append, List.singleton_append]
      rw [hcons, String.utf8ByteSize_append, String.utf8ByteSize_singleton, hc,
        ih fun d hd => h d (List.mem_cons_of_mem _ hd), List.length_cons, Nat.add_comm]

/-! ## Hexadecimal digits -/

namespace Hex

/-- A character that spells a digit: the one that is written for it, or its upper case. -/
def Spells (n : Nat) (c : Char) : Prop := c = digit n ∨ c = (digit n).toUpper

/-- Two texts that differ in the case of letters only: some in the second are upper case. -/
def Respelled (s t : String) : Prop :=
  List.Forall₂ (fun c d => d = c ∨ d = c.toUpper) s.toList t.toList

theorem digit_mem_of_lt : ∀ n < 16, digit n ∈ "0123456789abcdef".toList := by decide

theorem of_spells {n : Nat} {c : Char} (hn : n < 16) (h : Spells n c) :
    digitValue? c = some n ∧ c ≠ '+' ∧ c.toNat < 0x80 := by
  have hboth : ∀ n < 16,
      (digitValue? (digit n) = some n ∧ digit n ≠ '+' ∧ (digit n).toNat < 0x80) ∧
        digitValue? (digit n).toUpper = some n ∧ (digit n).toUpper ≠ '+' ∧
          (digit n).toUpper.toNat < 0x80 := by decide
  rcases h with rfl | rfl
  · exact (hboth n hn).1
  · exact (hboth n hn).2

theorem byte?_of_spells {b : UInt8} {c d : Char} (hc : Spells (b.toNat / 16) c)
    (hd : Spells (b.toNat % 16) d) : byte? c d = some b := by
  have hb : b.toNat < 256 := b.toNat_lt
  obtain ⟨hhigh, hplus, -⟩ := of_spells (by omega) hc
  obtain ⟨hlow, -, -⟩ := of_spells (by omega) hd
  have hsum : 16 * (b.toNat / 16) + b.toNat % 16 = b.toNat := by omega
  simp only [byte?, if_neg hplus, hhigh, hlow, hsum, UInt8.ofNat_toNat]

/-- The digits of bytes are read as these bytes, in whatever case each letter is. -/
theorem pairs_of_respelled (bs : List UInt8) : ∀ {cs : List Char} (position : Nat),
    List.Forall₂ (fun c d => d = c ∨ d = c.toUpper) (encodeChars bs) cs →
      pairs position cs = .ok bs ∧ cs.length = 2 * bs.length ∧ ∀ c ∈ cs, c.toNat < 0x80 := by
  induction bs with
  | nil =>
      intro cs position h
      cases h
      exact ⟨rfl, rfl, nofun⟩
  | cons b bs ih =>
      intro cs position h
      change List.Forall₂ _ (digit (b.toNat / 16) :: digit (b.toNat % 16) :: encodeChars bs) cs
        at h
      obtain _ | ⟨hc, h⟩ := h
      obtain _ | ⟨hd, h⟩ := h
      obtain ⟨hpairs, hlength, hascii⟩ := ih (position + 2) h
      have hb : b.toNat < 256 := b.toNat_lt
      refine ⟨?_, by simp only [List.length_cons, hlength]; omega, ?_⟩
      · simp only [pairs, byte?_of_spells hc hd, hpairs]
        rfl
      · intro e he
        rcases List.mem_cons.mp he with rfl | he
        · exact (of_spells (by omega) hc).2.2
        rcases List.mem_cons.mp he with rfl | he
        · exact (of_spells (by omega) hd).2.2
        · exact hascii e he

theorem decode_of_respelled {bs : List UInt8} {text : String}
    (h : Respelled (encode bs) text) : decode text = .ok bs := by
  rw [Respelled, encode, String.toList_ofList] at h
  obtain ⟨hpairs, hlength, hascii⟩ := pairs_of_respelled bs 0 h
  have hsize : text.utf8ByteSize = 2 * bs.length := by
    rw [← hlength, ← utf8ByteSize_of_ascii hascii, String.ofList_toList]
  have hall : text.toList.all (fun c => decide (c.toNat < 0x80)) = true :=
    List.all_eq_true.mpr fun c hc => decide_eq_true (hascii c hc)
  rw [decode, hsize, if_neg (by omega), hall]
  exact hpairs

theorem Respelled.refl (s : String) : Respelled s s :=
  List.forall₂_same.mpr fun _ _ => .inl rfl

theorem decode_encode (bs : List UInt8) : decode (encode bs) = .ok bs :=
  decode_of_respelled (.refl _)

theorem length_encode (bs : List UInt8) : (encode bs).length = 2 * bs.length := by
  have h := Respelled.refl (encode bs)
  rw [Respelled, encode, String.toList_ofList] at h
  rw [encode, String.length_ofList, (pairs_of_respelled bs 0 h).2.1]

theorem mem_digits_of_mem_encode {bs : List UInt8} {c : Char} (h : c ∈ (encode bs).toList) :
    c ∈ "0123456789abcdef".toList := by
  rw [encode, String.toList_ofList] at h
  obtain ⟨b, -, hc⟩ := List.mem_flatMap.mp h
  have hb : b.toNat < 256 := b.toNat_lt
  simp only [List.mem_cons, List.not_mem_nil, or_false] at hc
  rcases hc with rfl | rfl
  · exact digit_mem_of_lt _ (by omega)
  · exact digit_mem_of_lt _ (by omega)

end Hex

end CredRegistry.Text
