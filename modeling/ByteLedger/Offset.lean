import ByteLedger.Power

set_option autoImplicit false

/-!
# Offsets

A ledger is addressed by words of 64 bits. This module fixes, once for the whole
library, how an offset moves: forward clamped at the greatest offset, forward only
if the result exists, back clamped at zero, and up to a whole page. Each operation
has one lemma that states its value in `Nat`; after that nobody unfolds it.
-/

namespace ByteLedger

/-- A position in a ledger, or a number of bytes of it. -/
abbrev Offset := UInt64

/-- Number of bytes in one page. Storage grows in whole pages. -/
def pageSize : Nat := 65536

namespace Offset

/-- The number of offsets. -/
def count : Nat := 2 ^ 64

/-- The greatest offset. -/
def last : Offset := 0xFFFFFFFFFFFFFFFF

theorem toNat_last : last.toNat = 2 ^ 64 - 1 := rfl

theorem toNat_lt (o : Offset) : o.toNat < 2 ^ 64 := UInt64.toNat_lt_size o

theorem toNat_le_last (o : Offset) : o.toNat ≤ 2 ^ 64 - 1 := by
  have := toNat_lt o
  omega

/-- The offset nearest to `n`. -/
def clamp (n : Nat) : Offset := UInt64.ofNat (min n (2 ^ 64 - 1))

theorem toNat_clamp (n : Nat) : (clamp n).toNat = min n (2 ^ 64 - 1) := by
  rw [clamp, UInt64.toNat_ofNat']
  exact Nat.mod_eq_of_lt (by omega)

theorem clamp_toNat (o : Offset) : clamp o.toNat = o := by
  apply UInt64.toNat_inj.1
  rw [toNat_clamp]
  have := toNat_lt o
  omega

/-- `n` bytes further on, or the greatest offset if there is no such offset. -/
def advance (o : Offset) (n : Nat) : Offset := clamp (o.toNat + n)

theorem toNat_advance (o : Offset) (n : Nat) :
    (advance o n).toNat = min (o.toNat + n) (2 ^ 64 - 1) :=
  toNat_clamp _

theorem toNat_advance_of_lt {o : Offset} {n : Nat} (h : o.toNat + n < 2 ^ 64) :
    (advance o n).toNat = o.toNat + n := by
  rw [toNat_advance]
  omega

/-- `n` bytes further on, if there is such an offset. -/
def advance? (o : Offset) (n : Nat) : Option Offset :=
  if o.toNat + n < 2 ^ 64 then some (clamp (o.toNat + n)) else none

theorem advance?_eq_some_iff {o e : Offset} {n : Nat} :
    advance? o n = some e ↔ e.toNat = o.toNat + n := by
  unfold advance?
  have he := toNat_lt e
  split
  · rename_i h
    rw [Option.some.injEq, ← UInt64.toNat_inj, toNat_clamp]
    omega
  · simp
    omega

theorem advance?_eq_some {o : Offset} {n : Nat} (h : o.toNat + n < 2 ^ 64) :
    advance? o n = some (advance o n) :=
  advance?_eq_some_iff.2 (toNat_advance_of_lt h)

theorem eq_advance_of_advance? {o e : Offset} {n : Nat} (h : advance? o n = some e) :
    o.toNat + n < 2 ^ 64 ∧ e = advance o n := by
  have he := advance?_eq_some_iff.1 h
  have hlt : o.toNat + n < 2 ^ 64 := by
    rw [← he]
    exact toNat_lt e
  refine ⟨hlt, UInt64.toNat_inj.1 ?_⟩
  rw [he, toNat_advance_of_lt hlt]

theorem advance?_eq_none_iff {o : Offset} {n : Nat} :
    advance? o n = none ↔ 2 ^ 64 ≤ o.toNat + n := by
  unfold advance?
  split <;> simp <;> omega

/-- `n` bytes back, or zero if that is before the first offset. -/
def retreat (o : Offset) (n : Nat) : Offset := clamp (o.toNat - n)

theorem toNat_retreat (o : Offset) (n : Nat) : (retreat o n).toNat = o.toNat - n := by
  rw [retreat, toNat_clamp]
  have := toNat_lt o
  omega

/-- The least whole number of pages that reaches `o`, or the greatest offset if
that number of pages is too long. -/
def roundUpToPage (o : Offset) : Offset :=
  clamp ((o.toNat + (pageSize - 1)) / pageSize * pageSize)

theorem toNat_roundUpToPage (o : Offset) :
    (roundUpToPage o).toNat
      = min ((o.toNat + (pageSize - 1)) / pageSize * pageSize) (2 ^ 64 - 1) :=
  toNat_clamp _

theorem le_roundUpToPage (o : Offset) : o.toNat ≤ (roundUpToPage o).toNat := by
  rw [toNat_roundUpToPage]
  have := toNat_lt o
  unfold pageSize
  omega

theorem toNat_min (a b : Offset) : (min a b).toNat = min a.toNat b.toNat := by
  change (ite (a ≤ b) a b).toNat = _
  rw [Nat.min_def]
  simp only [UInt64.le_iff_toNat_le]
  split <;> rfl

theorem toNat_max (a b : Offset) : (max a b).toNat = max a.toNat b.toNat := by
  change (ite (a ≤ b) b a).toNat = _
  rw [Nat.max_def]
  simp only [UInt64.le_iff_toNat_le]
  split <;> rfl

theorem max_zero_left (o : Offset) : max 0 o = o := by
  apply UInt64.toNat_inj.1
  rw [toNat_max]
  exact Nat.max_eq_right (Nat.zero_le _)

theorem max_eq_right_of_lt {a b : Offset} (h : a < b) : max a b = b := by
  apply UInt64.toNat_inj.1
  rw [UInt64.lt_iff_toNat_lt] at h
  rw [toNat_max]
  omega

theorem max_eq_left_of_not_lt {a b : Offset} (h : ¬ a < b) : max a b = a := by
  apply UInt64.toNat_inj.1
  rw [UInt64.lt_iff_toNat_lt] at h
  rw [toNat_max]
  omega

end Offset

end ByteLedger
