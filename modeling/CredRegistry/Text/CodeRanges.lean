/-!
# Ranges of code points

Sets of characters that are given as ranges of code points. `CodeRanges.holds`
finds a character by halving, which is right as the ranges are in ascending order.
-/

namespace CredRegistry.Text

/-- Ranges of code points, both ends included, in ascending order. -/
abbrev CodeRanges := Array (Nat × Nat)

namespace CodeRanges

/-- Does `n` lie in one of the ranges from `lo` up to and without `hi`? -/
def search (ranges : CodeRanges) (n : Nat) : Nat → Nat → Nat → Bool
  | 0, _, _ => false
  | fuel + 1, lo, hi =>
      if hi ≤ lo then false
      else
        let mid := (lo + hi) / 2
        match ranges[mid]? with
        | none => false
        | some (first, last) =>
            if n < first then search ranges n fuel lo mid
            else if last < n then search ranges n fuel (mid + 1) hi
            else true

def holds (ranges : CodeRanges) (c : Char) : Bool :=
  ranges.search c.toNat ranges.size 0 ranges.size

end CodeRanges

end CredRegistry.Text
