import CredRegistry.Cipher.TokenKey
import CredRegistry.Proofs.Text.Bytes

/-!
# Which texts spell bytes and keys

`Hex.decode` takes a text apart in pairs. Each is a digit behind another one, or behind a plus sign
that counts for nothing (`Hex.Paired`), and the bytes are written back as these digits in lower
case, with a zero for each sign (`Hex.paired_of_decode`). So a text without signs is read just if it
holds an even number of digits and nothing else (`Hex.paired_iff_of_unsigned`).

The pairs can as well be cut out by their places in bytes (`Hex.decodeSlices`). A cut past the end
or within a character would come to nothing, and there is none (`Hex.decodeSlices_eq`).
-/

namespace CredRegistry.Text

/-! ## Cutting at a byte -/

/-- The characters in front of a byte and those from it on, if a character begins there or the
text ends. -/
def cutAt? : Nat → List Char → Option (List Char × List Char)
  | 0, cs => some ([], cs)
  | _ + 1, [] => none
  | n + 1, c :: cs =>
      if c.utf8Size ≤ n + 1 then
        (cutAt? (n + 1 - c.utf8Size) cs).map fun (front, rest) => (c :: front, rest)
      else none

/-- So many bytes from a place on. -/
def slice? (cs : List Char) (start length : Nat) : Option (List Char) :=
  match cutAt? start cs with
  | none => none
  | some (_, rest) => (cutAt? length rest).map Prod.fst

theorem cutAt?_of_ascii {front : List Char} (hfront : ∀ c ∈ front, c.toNat < 0x80)
    (rest : List Char) : cutAt? front.length (front ++ rest) = some (front, rest) := by
  induction front with
  | nil => rw [List.length_nil, List.nil_append, cutAt?]
  | cons c front ih =>
      have hc : c.utf8Size = 1 := utf8Size_of_ascii (hfront c List.mem_cons_self)
      have hcut := ih fun d hd => hfront d (List.mem_cons_of_mem c hd)
      rw [List.length_cons, List.cons_append, cutAt?, hc, if_pos (by omega), Nat.add_sub_cancel,
        hcut, Option.map_some]

theorem slice?_of_ascii {front middle : List Char} (hfront : ∀ c ∈ front, c.toNat < 0x80)
    (hmiddle : ∀ c ∈ middle, c.toNat < 0x80) (rest : List Char) :
    slice? (front ++ (middle ++ rest)) front.length middle.length = some middle := by
  simp only [slice?, cutAt?_of_ascii hfront, cutAt?_of_ascii hmiddle, Option.map_some]

namespace Hex

/-! ## Digits -/

/-- A digit, in either case. -/
def IsDigit (c : Char) : Prop := c ∈ "0123456789abcdefABCDEF".toList

instance (c : Char) : Decidable (IsDigit c) :=
  inferInstanceAs (Decidable (c ∈ "0123456789abcdefABCDEF".toList))

/-- How a character of a pair is written back. -/
def plain (c : Char) : Char := if c = '+' then '0' else c.toLower

theorem of_isDigit {c : Char} (h : IsDigit c) :
    (∃ n, digitValue? c = some n) ∧ c ≠ '+' ∧ c.toNat < 0x80 := by
  have hall : ("0123456789abcdefABCDEF".toList.all fun c =>
      decide ((digitValue? c).isSome = true ∧ c ≠ '+' ∧ c.toNat < 0x80)) = true := by decide
  obtain ⟨hvalue, hrest⟩ := of_decide_eq_true (List.all_eq_true.mp hall c h)
  exact ⟨Option.isSome_iff_exists.mp hvalue, hrest⟩

theorem ascii_of_digitValue? {c : Char} {n : Nat} (h : digitValue? c = some n) :
    c.toNat < 0x80 := by
  have hle (d : Char) : c ≤ d ↔ c.toNat ≤ d.toNat := UInt32.le_iff_toNat_le
  by_contra hlarge
  have hnine : ¬ c ≤ '9' := by
    rw [hle, show '9'.toNat = 57 from rfl]
    omega
  have hupper : ¬ c ≤ 'F' := by
    rw [hle, show 'F'.toNat = 70 from rfl]
    omega
  have hlower : ¬ c ≤ 'f' := by
    rw [hle, show 'f'.toNat = 102 from rfl]
    omega
  have hdigit : c.isDigit = false := by
    rw [Char.isDigit, Bool.and_eq_false_iff]
    exact .inr (decide_eq_false hnine)
  simp [digitValue?, Decimal.digitValue?, hdigit, hupper, hlower] at h

/-- What is read as a digit is one, and is written back in lower case. -/
theorem digitValue?_eq_some {c : Char} {n : Nat} (h : digitValue? c = some n) :
    n < 16 ∧ IsDigit c ∧ digit n = plain c := by
  have hall : ∀ k < 0x80, ∀ n ∈ digitValue? (Char.ofNat k), n < 16 ∧
      Char.ofNat k ∈ "0123456789abcdefABCDEF".toList ∧ digit n = plain (Char.ofNat k) := by
    decide
  have hc := hall c.toNat (ascii_of_digitValue? h)
  rw [Char.ofNat_toNat] at hc
  exact hc n h

/-! ## Pairs -/

/-- Pairs of digits, with a plus sign for the first digit of a pair or not. -/
inductive Paired : List Char → Prop where
  | nil : Paired []
  | cons {a b : Char} {cs : List Char} (hfirst : IsDigit a ∨ a = '+') (hsecond : IsDigit b)
      (hrest : Paired cs) : Paired (a :: b :: cs)

theorem byte?_eq_some {a b : Char} {x : UInt8} (h : byte? a b = some x) :
    (IsDigit a ∨ a = '+') ∧ IsDigit b ∧
      digit (x.toNat / 16) = plain a ∧ digit (x.toNat % 16) = plain b := by
  unfold byte? at h
  split at h
  next m n hm hn =>
    cases h
    obtain ⟨hsmall, hsecond, hlow⟩ := digitValue?_eq_some hn
    have hfirst : m < 16 ∧ (IsDigit a ∨ a = '+') ∧ digit m = plain a := by
      split at hm
      next hplus =>
        cases hm
        rw [hplus]
        exact ⟨by decide, .inr rfl, rfl⟩
      next =>
        obtain ⟨hm, ha, hhigh⟩ := digitValue?_eq_some hm
        exact ⟨hm, .inl ha, hhigh⟩
    obtain ⟨hm, hfirst, hhigh⟩ := hfirst
    have hvalue : (UInt8.ofNat (16 * m + n)).toNat = 16 * m + n := UInt8.toNat_ofNat_of_lt' (by
      simp only [UInt8.size]
      omega)
    rw [hvalue, show (16 * m + n) / 16 = m by omega, show (16 * m + n) % 16 = n by omega]
    exact ⟨hfirst, hsecond, hhigh, hlow⟩
  next => cases h

theorem exists_byte? {a b : Char} (hfirst : IsDigit a ∨ a = '+') (hsecond : IsDigit b) :
    ∃ x, byte? a b = some x := by
  obtain ⟨⟨n, hn⟩, -⟩ := of_isDigit hsecond
  rcases hfirst with ha | rfl
  · obtain ⟨⟨m, hm⟩, hplus, -⟩ := of_isDigit ha
    exact ⟨UInt8.ofNat (16 * m + n), by simp only [byte?, if_neg hplus, hm, hn]⟩
  · exact ⟨UInt8.ofNat (16 * 0 + n), by simp only [byte?, if_true, hn]⟩

theorem pairs_cons_eq_ok {position : Nat} {a b : Char} {cs : List Char} {bs : List UInt8} :
    pairs position (a :: b :: cs) = .ok bs ↔
      ∃ x xs, byte? a b = some x ∧ pairs (position + 2) cs = .ok xs ∧ bs = x :: xs := by
  rw [pairs]
  cases byte? a b with
  | none => simp
  | some x => cases pairs (position + 2) cs <;> simp [bind, Except.bind, eq_comm]

/-- Pairs of characters are the bytes they spell only if they are digits. -/
theorem paired_of_pairs : ∀ {cs : List Char} {position : Nat} {bs : List UInt8},
    cs.length % 2 = 0 → pairs position cs = .ok bs →
      Paired cs ∧ encodeChars bs = cs.map plain
  | [], position, bs, _, h => by
      cases h
      exact ⟨.nil, rfl⟩
  | [_], _, _, heven, _ => by cases heven
  | a :: b :: cs, position, bs, heven, h => by
      obtain ⟨x, xs, hx, hxs, rfl⟩ := pairs_cons_eq_ok.mp h
      obtain ⟨hfirst, hsecond, hhigh, hlow⟩ := byte?_eq_some hx
      obtain ⟨hrest, hchars⟩ := paired_of_pairs (by simp at heven; omega) hxs
      refine ⟨.cons hfirst hsecond hrest, ?_⟩
      rw [List.map_cons, List.map_cons, ← hchars, ← hhigh, ← hlow]
      rfl

theorem Paired.exists_pairs {cs : List Char} (h : Paired cs) :
    ∀ position, ∃ bs, pairs position cs = .ok bs := by
  induction h with
  | nil => exact fun _ => ⟨[], rfl⟩
  | cons hfirst hsecond _ ih =>
      intro position
      obtain ⟨x, hx⟩ := exists_byte? hfirst hsecond
      obtain ⟨xs, hxs⟩ := ih (position + 2)
      exact ⟨x :: xs, pairs_cons_eq_ok.mpr ⟨x, xs, hx, hxs, rfl⟩⟩

theorem Paired.ascii {cs : List Char} (h : Paired cs) : ∀ c ∈ cs, c.toNat < 0x80 := by
  induction h with
  | nil => exact nofun
  | cons hfirst hsecond _ ih =>
      intro c hc
      rcases List.mem_cons.mp hc with rfl | hc
      · rcases hfirst with ha | rfl
        · exact (of_isDigit ha).2.2
        · decide
      rcases List.mem_cons.mp hc with rfl | hc
      · exact (of_isDigit hsecond).2.2
      · exact ih c hc

theorem Paired.even {cs : List Char} (h : Paired cs) : cs.length % 2 = 0 := by
  induction h with
  | nil => rfl
  | cons _ _ _ ih =>
      simp only [List.length_cons]
      omega

/-- Without a sign, pairs of digits are an even number of them. -/
theorem paired_iff_of_unsigned : ∀ {cs : List Char}, '+' ∉ cs →
    (Paired cs ↔ cs.length % 2 = 0 ∧ ∀ c ∈ cs, IsDigit c)
  | [], _ => ⟨fun _ => ⟨rfl, nofun⟩, fun _ => .nil⟩
  | [_], _ => by
      constructor
      · intro h
        cases h
      · rintro ⟨heven, -⟩
        cases heven
  | a :: b :: cs, hunsigned => by
      have hrest : '+' ∉ cs := fun hmem =>
        hunsigned (List.mem_cons_of_mem a (List.mem_cons_of_mem b hmem))
      have hplus : a ≠ '+' := fun heq => hunsigned (heq ▸ List.mem_cons_self)
      constructor
      · intro h
        cases h with
        | cons hfirst hsecond hpaired =>
            obtain ⟨heven, hdigits⟩ := (paired_iff_of_unsigned hrest).mp hpaired
            refine ⟨(Paired.cons hfirst hsecond hpaired).even, ?_⟩
            rw [List.forall_mem_cons, List.forall_mem_cons]
            exact ⟨hfirst.resolve_right hplus, hsecond, hdigits⟩
      · rintro ⟨heven, hdigits⟩
        rw [List.forall_mem_cons, List.forall_mem_cons] at hdigits
        obtain ⟨hfirst, hsecond, hdigits⟩ := hdigits
        refine .cons (.inl hfirst) hsecond ((paired_iff_of_unsigned hrest).mpr ⟨?_, hdigits⟩)
        simp only [List.length_cons] at heven
        omega

/-! ## Texts -/

/-- A text that has no odd number of bytes and only characters of one byte is read pair by pair. -/
theorem decode_cases (s : String) :
    decode s = .error .oddLength ∨ decode s = .error .notAscii ∨
      (s.toList.length % 2 = 0 ∧ (∀ c ∈ s.toList, c.toNat < 0x80) ∧
        decode s = pairs 0 s.toList) := by
  by_cases hodd : s.utf8ByteSize % 2 ≠ 0
  · exact .inl (if_pos hodd)
  · by_cases hall : s.toList.all (fun c => decide (c.toNat < 0x80)) = true
    · have hascii : ∀ c ∈ s.toList, c.toNat < 0x80 := fun c hc =>
        of_decide_eq_true (List.all_eq_true.mp hall c hc)
      have hsize := utf8ByteSize_of_ascii hascii
      rw [String.ofList_toList] at hsize
      refine .inr (.inr ⟨by omega, hascii, ?_⟩)
      rw [decode, if_neg hodd, hall]
      rfl
    · refine .inr (.inl ?_)
      rw [decode, if_neg hodd, Bool.eq_false_iff.mpr hall]
      rfl

/-- Only pairs of digits are read, and they are what is written for the bytes but for signs and
upper case. -/
theorem paired_of_decode {s : String} {bs : List UInt8} (h : decode s = .ok bs) :
    Paired s.toList ∧ encodeChars bs = s.toList.map plain := by
  rcases decode_cases s with hodd | hother | ⟨heven, -, hpairs⟩
  · cases hodd.symm.trans h
  · cases hother.symm.trans h
  · exact paired_of_pairs heven (hpairs.symm.trans h)

theorem length_of_decode {s : String} {bs : List UInt8} (h : decode s = .ok bs) :
    s.length = 2 * bs.length := by
  have hlength := congrArg List.length (paired_of_decode h).2
  have hwritten := length_encode bs
  rw [encode, String.length_ofList] at hwritten
  rw [hwritten, List.length_map, String.length_toList] at hlength
  exact hlength.symm

theorem Paired.exists_decode {s : String} (h : Paired s.toList) : ∃ bs, decode s = .ok bs := by
  have hsize := utf8ByteSize_of_ascii h.ascii
  have hall : s.toList.all (fun c => decide (c.toNat < 0x80)) = true :=
    List.all_eq_true.mpr fun c hc => decide_eq_true (h.ascii c hc)
  have heven := h.even
  rw [String.ofList_toList] at hsize
  obtain ⟨bs, hbs⟩ := h.exists_pairs 0
  refine ⟨bs, ?_⟩
  rw [decode, if_neg (by omega), hall]
  exact hbs

theorem exists_decode_iff {s : String} : (∃ bs, decode s = .ok bs) ↔ Paired s.toList :=
  ⟨fun ⟨_, h⟩ => (paired_of_decode h).1, Paired.exists_decode⟩

/-! ## Slices -/

def ofSlice? : List Char → Option UInt8
  | [a, b] => byte? a b
  | _ => none

/-- The bytes that the slices at some places spell, up to the first one that spells none; nothing
if there is no such slice. -/
def spelledAt? (cs : List Char) : List Nat → Option (Except Fault (List UInt8))
  | [] => some (.ok [])
  | i :: is =>
      match slice? cs i 2 with
      | none => none
      | some slice =>
          match ofSlice? slice with
          | none => some (.error (.invalid i))
          | some x => (spelledAt? cs is).map fun rest => rest.map (x :: ·)

/-- Reading a text by slices of two bytes. -/
def decodeSlices (s : String) : Option (Except Fault (List UInt8)) :=
  if s.utf8ByteSize % 2 ≠ 0 then some (.error .oddLength)
  else if !(s.toList.all fun c => c.toNat < 0x80) then some (.error .notAscii)
  else spelledAt? s.toList (List.range' 0 (s.utf8ByteSize / 2) 2)

theorem spelledAt?_eq : ∀ {cs front : List Char}, (∀ c ∈ front, c.toNat < 0x80) →
    (∀ c ∈ cs, c.toNat < 0x80) → cs.length % 2 = 0 →
      spelledAt? (front ++ cs) (List.range' front.length (cs.length / 2) 2)
        = some (pairs front.length cs)
  | [], _, _, _, _ => rfl
  | [_], _, _, _, heven => by cases heven
  | a :: b :: cs, front, hfront, hascii, heven => by
      have hpair : ∀ c ∈ [a, b], c.toNat < 0x80 := fun c hc =>
        hascii c ((List.prefix_append [a, b] cs).mem hc)
      have hnext : ∀ c ∈ front ++ [a, b], c.toNat < 0x80 :=
        List.forall_mem_append.mpr ⟨hfront, hpair⟩
      have hrest : ∀ c ∈ cs, c.toNat < 0x80 := fun c hc =>
        hascii c ((List.suffix_append [a, b] cs).mem hc)
      have hslice : slice? (front ++ a :: b :: cs) front.length 2 = some [a, b] :=
        slice?_of_ascii hfront hpair cs
      have hcount : (a :: b :: cs).length / 2 = cs.length / 2 + 1 := by
        simp only [List.length_cons]
        omega
      have ih := spelledAt?_eq hnext hrest (by simp only [List.length_cons] at heven; omega)
      rw [List.length_append, List.append_assoc] at ih
      rw [hcount, List.range'_succ, spelledAt?, hslice, pairs]
      simp only [ofSlice?]
      cases byte? a b with
      | none => rfl
      | some x =>
          simp only [List.length_cons, List.length_nil, List.cons_append, List.nil_append] at ih
          simp only [ih, Option.map_some]
          cases pairs (front.length + 2) cs <;> rfl

/-- No slice is outside of the text or within a character. -/
theorem decodeSlices_eq (s : String) : decodeSlices s = some (decode s) := by
  unfold decodeSlices decode
  split
  · rfl
  next hodd =>
    split
    · rfl
    next hall =>
      have hall : s.toList.all (fun c => decide (c.toNat < 0x80)) = true := by simpa using hall
      have hascii : ∀ c ∈ s.toList, c.toNat < 0x80 := fun c hc =>
        of_decide_eq_true (List.all_eq_true.mp hall c hc)
      have hsize := utf8ByteSize_of_ascii hascii
      rw [String.ofList_toList] at hsize
      rw [hsize] at hodd ⊢
      have heven : s.toList.length % 2 = 0 := not_not.mp hodd
      exact @spelledAt?_eq s.toList [] nofun hascii heven

end Hex

/-! ## Keys -/

theorem exists_key_iff {s : String} : (∃ key, TokenKey.ofText s = .ok key) ↔
    (trim s).length = 64 ∧ Hex.Paired (trim s).toList := by
  constructor
  · rintro ⟨key, hkey⟩
    unfold TokenKey.ofText at hkey
    split at hkey
    · cases hkey
    next bs hbs =>
      split at hkey
      next hsize =>
        refine ⟨?_, (Hex.paired_of_decode hbs).1⟩
        rw [Hex.length_of_decode hbs, hsize]
      next => cases hkey
  · rintro ⟨hlength, hpaired⟩
    obtain ⟨bs, hbs⟩ := hpaired.exists_decode
    have hsize : bs.length = 32 := by
      rw [Hex.length_of_decode hbs] at hlength
      omega
    exact ⟨⟨⟨bs.toArray, by simp [hsize]⟩⟩, by simp only [TokenKey.ofText, hbs, hsize, dif_pos]⟩

/-- A text is read as bytes just if it consists of pairs of digits, a sign being taken for a zero in
front of the second; then it is what these bytes are written as, but for signs and upper case.
Without signs that is every text of an even number of digits, and no other. What was written is
read, and reading looks nowhere but at whole characters of the text. A key is such a text of 64
characters, blanks around it aside. -/
theorem spelled_in_pairs (s : String) :
    ((∃ bs, Hex.decode s = .ok bs) ↔ Hex.Paired s.toList) ∧
      (∀ bs, Hex.decode s = .ok bs → (Hex.encode bs).toList = s.toList.map Hex.plain) ∧
      ('+' ∉ s.toList →
        ((∃ bs, Hex.decode s = .ok bs) ↔ s.length % 2 = 0 ∧ ∀ c ∈ s.toList, Hex.IsDigit c) ∧
        ∀ bs, Hex.decode s = .ok bs → Hex.encode bs = s.toLower) ∧
      (∀ bs, Hex.decode (Hex.encode bs) = .ok bs) ∧
      Hex.decodeSlices s = some (Hex.decode s) ∧
      ((∃ key, TokenKey.ofText s = .ok key) ↔
        (trim s).length = 64 ∧ Hex.Paired (trim s).toList) ∧
      ('+' ∉ (trim s).toList →
        ((∃ key, TokenKey.ofText s = .ok key) ↔
          (trim s).length = 64 ∧ ∀ c ∈ (trim s).toList, Hex.IsDigit c)) := by
  refine ⟨Hex.exists_decode_iff, fun bs h => ?_, fun hunsigned => ⟨?_, fun bs h => ?_⟩,
    Hex.decode_encode, Hex.decodeSlices_eq s, exists_key_iff, fun hunsigned => ?_⟩
  · rw [Hex.encode, String.toList_ofList]
    exact (Hex.paired_of_decode h).2
  · rw [Hex.exists_decode_iff, Hex.paired_iff_of_unsigned hunsigned, String.length_toList]
  · have hplain : s.toList.map Hex.plain = s.toList.map Char.toLower := by
      refine List.map_congr_left fun c hc => if_neg ?_
      rintro rfl
      exact hunsigned hc
    rw [Hex.encode, (Hex.paired_of_decode h).2, hplain]
    show _ = s.map Char.toLower
    rw [← String.toList_map, String.ofList_toList]
  · rw [exists_key_iff, Hex.paired_iff_of_unsigned hunsigned, String.length_toList]
    refine and_congr_right fun hlength => ?_
    rw [hlength]
    exact and_iff_right rfl

/-- A key of signs in front of digits. -/
def signed : String := String.ofList (List.replicate 32 ['+', 'f']).flatten

/-- A sign is no digit, nor is it written back. -/
theorem sign_passes_for_digit :
    Hex.decode "+f" = .ok [15] ∧ ¬ (∀ c ∈ "+f".toList, Hex.IsDigit c) ∧
      (Hex.encode [15]).toList ≠ "+f".toLower.toList ∧
      (∃ key, TokenKey.ofText signed = .ok key) ∧
      ¬ ∀ c ∈ (trim signed).toList, Hex.IsDigit c := by
  have hsign : ¬ Hex.IsDigit '+' := by decide
  refine ⟨by decide, fun h => hsign (h '+' (by decide)), ?_, ?_, ?_⟩
  · show _ ≠ ("+f".map Char.toLower).toList
    rw [String.toList_map]
    decide
  · exact ⟨⟨Vector.replicate 32 15⟩, by decide +kernel⟩
  · exact fun h => hsign (h '+' (by decide +kernel))

end CredRegistry.Text
