import ByteLedger.Offset

set_option autoImplicit false

/-!
# Decimal offsets

Offsets are written in decimal without leading zeros. Reading is more generous than
writing: leading zeros and one plus sign are accepted. Main statement: what is
written reads back (`word?_text`).
-/

namespace ByteLedger.Decimal

/-- The number that a non-empty run of ASCII digits denotes. -/
def natural? (cs : List Char) : Option Nat :=
  if !cs.isEmpty && cs.all Char.isDigit then some (Nat.ofDigitChars 10 cs 0) else none

/-- The offset denoted by an optional plus sign and a non-empty run of ASCII digits, if
it is below `2^64`. -/
def word? (cs : List Char) : Option Offset :=
  let digits := match cs with
    | '+' :: rest => rest
    | _ => cs
  match natural? digits with
  | some n => if n < 2 ^ 64 then some (UInt64.ofNat n) else none
  | none => none

/-- An offset in decimal. -/
def text (n : Offset) : String := n.toNat.repr

theorem toList_text (n : Offset) : (text n).toList = Nat.toDigits 10 n.toNat :=
  Nat.toList_repr

theorem natural?_toDigits (n : Nat) : natural? (Nat.toDigits 10 n) = some n := by
  have hne : (Nat.toDigits 10 n).isEmpty = false := by
    simp [Nat.toDigits_ne_nil]
  have hall : (Nat.toDigits 10 n).all Char.isDigit = true := by
    rw [List.all_eq_true]
    intro c hc
    exact Nat.isDigit_of_mem_toDigits (by decide) (by decide) hc
  simp [natural?, hne, hall, Nat.ofDigitChars_ten_toDigits]

/-- A digit is no plus sign, so a run of digits is read whole. -/
theorem word?_of_isDigit {cs : List Char} (h : ∀ c ∈ cs, c.isDigit = true) :
    word? cs = match natural? cs with
      | some n => if n < 2 ^ 64 then some (UInt64.ofNat n) else none
      | none => none := by
  unfold word?
  split
  · rename_i rest
    exact absurd (h '+' (by simp)) (by decide)
  · rfl

theorem word?_text (n : Offset) : word? (text n).toList = some n := by
  rw [toList_text, word?_of_isDigit]
  · rw [natural?_toDigits]
    simp [n.toNat_lt_size]
  · intro c hc
    exact Nat.isDigit_of_mem_toDigits (by decide) (by decide) hc

end ByteLedger.Decimal
