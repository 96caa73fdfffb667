import ByteLedger.Power

set_option autoImplicit false

/-!
# Durations

A duration is written in the greatest of the units second, millisecond, microsecond and
nanosecond that is not greater than it, with a fraction that is exact and has no zeros at
its end.
-/

namespace ByteLedger.Duration

/-- The fraction of a unit that is `n` parts of `10 ^ width`: a point and digits, or
nothing if there are no parts. -/
def fraction : (width : Nat) → (n : Nat) → List Char
  | 0, _ => []
  | width + 1, n =>
    if n = 0 then [] else Nat.digitChar (n / 10 ^ width) :: fraction width (n % 10 ^ width)

/-- `n` parts of `10 ^ width` of a unit. -/
def inUnit (width n : Nat) (unit : String) : String :=
  let digits := fraction width (n % 10 ^ width)
  (n / 10 ^ width).repr ++ (if digits.isEmpty then "" else "." ++ String.ofList digits) ++ unit

/-- A duration of so many nanoseconds. -/
def text (nanoseconds : Nat) : String :=
  if 10 ^ 9 ≤ nanoseconds then inUnit 9 nanoseconds "s"
  else if 10 ^ 6 ≤ nanoseconds then inUnit 6 nanoseconds "ms"
  else if 10 ^ 3 ≤ nanoseconds then inUnit 3 nanoseconds "µs"
  else inUnit 0 nanoseconds "ns"

end ByteLedger.Duration
