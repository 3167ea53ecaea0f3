import CredRegistry.Text.Hex

/-!
# Percent signs that stand for bytes

In a text a percent sign with two hexadecimal digits behind it stands for the byte of
that number. Any other percent sign stands for itself.
-/

namespace CredRegistry.Text.Percent

def decodeBytes : List Char → List UInt8
  | '%' :: a :: b :: cs =>
      match Hex.digitValue? a, Hex.digitValue? b with
      | some m, some n => UInt8.ofNat (16 * m + n) :: decodeBytes cs
      | _, _ => utf8 "%" ++ decodeBytes (a :: b :: cs)
  | c :: cs => utf8 (String.singleton c) ++ decodeBytes cs
  | [] => []

/-- The text that a text stands for, up to the first zero byte. -/
def decode (cs : List Char) : String := lossy ((decodeBytes cs).takeWhile (· ≠ 0))

/-- A text without percent signs stands for its own bytes. -/
theorem decodeBytes_of_no_percent {cs : List Char} (h : '%' ∉ cs) :
    decodeBytes cs = cs.flatMap fun c => utf8 (String.singleton c) := by
  fun_induction decodeBytes cs with
  | case1 => simp at h
  | case2 => simp at h
  | case3 c cs _ ih => rw [List.flatMap_cons, ih (fun hc => h (List.mem_cons_of_mem _ hc))]
  | case4 => rfl

end CredRegistry.Text.Percent
