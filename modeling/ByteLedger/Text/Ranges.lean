set_option autoImplicit false

/-!
# Ranges of characters

A property of characters is given as a list of ranges of code points, in ascending
order and without overlap.
-/

namespace ByteLedger

/-- Ranges of code points, each by its first and its last. -/
abbrev CharRanges := List (Nat × Nat)

namespace CharRanges

/-- Whether a code point lies in one of the ranges. The search ends at the first range
that begins after it. -/
def covers (ranges : CharRanges) (n : Nat) : Bool :=
  match ranges with
  | [] => false
  | (first, last) :: rest => if n < first then false else n ≤ last || covers rest n

end CharRanges

end ByteLedger
