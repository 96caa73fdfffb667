import ByteLedger.Power

set_option autoImplicit false

/-!
# Byte strings

Byte strings are lists, so that every law of lists is a law of theirs. Beside the
operations of lists a ledger needs three: a run of zeros, a slice, and one string laid
over another at an offset.
-/

namespace ByteLedger

/-- A byte string. -/
abbrev Bytes := List UInt8

namespace Bytes

/-- `n` zero bytes. -/
def zeros (n : Nat) : Bytes := List.replicate n 0

/-- The `len` bytes from `start` on, or as many of them as there are. -/
def slice (bs : Bytes) (start len : Nat) : Bytes := (bs.drop start).take len

/-- `bs` with zeros after it up to the length `n`. -/
def padTo (bs : Bytes) (n : Nat) : Bytes := bs ++ zeros (n - bs.length)

/-- `bs` with the bytes from `start` on replaced by `data`. -/
def overlay (bs : Bytes) (start : Nat) (data : Bytes) : Bytes :=
  bs.take start ++ (data ++ bs.drop (start + data.length))

/-- The two lower-case hexadecimal digits of a byte. -/
def hexPair (b : UInt8) : List Char :=
  [Nat.digitChar (b.toNat / 16), Nat.digitChar (b.toNat % 16)]

/-- A byte string in hexadecimal. -/
def hex (bs : Bytes) : String := String.ofList (bs.flatMap hexPair)

/-- The index of the first disagreement of two byte strings, as far as both reach. -/
def firstDifference? : Bytes → Bytes → Option Nat
  | a :: as, b :: bs => if a = b then (firstDifference? as bs).map (· + 1) else some 0
  | _, _ => none

theorem length_zeros (n : Nat) : (zeros n).length = n := List.length_replicate

theorem length_slice (bs : Bytes) (start len : Nat) :
    (slice bs start len).length = min len (bs.length - start) := by
  simp [slice]

theorem getD_slice (bs : Bytes) (start : Nat) {len i : Nat} (h : i < len) :
    (slice bs start len).getD i 0 = bs.getD (start + i) 0 := by
  rw [slice, List.getD_eq_getElem?_getD, List.getElem?_take_of_lt h, List.getElem?_drop,
    ← List.getD_eq_getElem?_getD]

theorem length_padTo (bs : Bytes) (n : Nat) : (padTo bs n).length = max bs.length n := by
  simp [padTo, length_zeros]
  omega

theorem length_overlay {bs data : Bytes} {start : Nat} (h : start + data.length ≤ bs.length) :
    (overlay bs start data).length = bs.length := by
  simp [overlay]
  omega

theorem getD_zeros (n i : Nat) : (zeros n).getD i 0 = 0 := by
  simp [zeros, List.getD_eq_getElem?_getD, List.getElem?_replicate]
  split <;> rfl

theorem getD_padTo (bs : Bytes) (n i : Nat) : (padTo bs n).getD i 0 = bs.getD i 0 := by
  unfold padTo
  by_cases h : i < bs.length
  · simp [List.getD_eq_getElem?_getD, List.getElem?_append_left h]
  · have h' : bs.length ≤ i := by omega
    rw [List.getD_eq_getElem?_getD, List.getElem?_append_right h', ← List.getD_eq_getElem?_getD,
      getD_zeros, List.getD_eq_getElem?_getD, List.getElem?_eq_none h']
    rfl

/-- What an overlay holds at an index: the new byte inside the replaced range, the old
one outside. -/
theorem getD_overlay {bs data : Bytes} {start : Nat} (h : start + data.length ≤ bs.length)
    (i : Nat) :
    (overlay bs start data).getD i 0
      = if start ≤ i ∧ i < start + data.length then data.getD (i - start) 0 else bs.getD i 0 := by
  have hlen : (bs.take start).length = start := by simp; omega
  unfold overlay
  simp only [List.getD_eq_getElem?_getD]
  by_cases h₁ : i < start
  · rw [List.getElem?_append_left (by omega), List.getElem?_take_of_lt h₁]
    simp
    omega
  · rw [List.getElem?_append_right (by omega), hlen]
    by_cases h₂ : i < start + data.length
    · rw [List.getElem?_append_left (by omega)]
      simp [h₂]
      omega
    · rw [List.getElem?_append_right (by omega), List.getElem?_drop]
      have hidx : start + data.length + (i - start - data.length) = i := by omega
      rw [hidx]
      simp [h₂]

end Bytes

end ByteLedger
