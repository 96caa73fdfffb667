import ByteLedger.Proofs.Ledger
import ByteLedger.Proofs.Serving

set_option autoImplicit false

/-!
# What passes through the wire forms

A ledger in the same process is fetched from as one elsewhere would be, through the wire forms of
the request and of the reply. They change nothing (`Ledger.fetch_delivers`): whatever the ledger
serves fits into a reply, also if its database was tampered with, because what it reads has the
length that was asked for and the texts of its errors are short (`Storage.Measured`).
-/

namespace ByteLedger

/-! ## Lengths of texts -/

/-- A number of 64 bits has at most twenty digits. -/
theorem Decimal.length_toString_le {n : Nat} (h : n < 2 ^ 64) : Utf8.length (toString n) ≤ 80 := by
  have htext := length_text_le (Offset.clamp n)
  have hn : (Offset.clamp n).toNat = n := by
    rw [Offset.toNat_clamp]
    omega
  rw [text, hn] at htext
  exact htext

namespace StorageError

/-- Why a ledger cannot be read: an extent is missing or negative, a page has the wrong length, the
range passes the capacity, or there is no memory for it. -/
inductive OfReading : StorageError → Prop where
  | missing (x : Extent) : OfReading (.missingExtent x)
  | negative (x : Extent) (value : Int64) : OfReading (.negativeExtent x value)
  | page {index length : Nat} : index < 2 ^ 64 → length < 2 ^ 64 →
      OfReading (.wrongPageLength index length)
  | range (offset stop capacity : Offset) : OfReading (.outOfRange offset stop capacity)
  | memory (stop : Offset) : OfReading (.capacityExceeded stop)

theorem length_key_le (x : Extent) : Utf8.length x.key ≤ 11 := by
  cases x <;> decide

theorem length_toInt_le (value : Int64) : Utf8.length (toString value.toInt) ≤ 81 := by
  have hle := value.le_toInt
  have hlt := value.toInt_lt
  cases h : value.toInt with
  | ofNat n =>
    rw [h, Int.ofNat_eq_natCast] at hlt
    have hn := Decimal.length_toString_le (show n < 2 ^ 64 by omega)
    exact Nat.le_trans hn (by decide)
  | negSucc n =>
    have hsign : Utf8.length "-" ≤ 1 := by decide
    exact Utf8.length_append_le hsign (Decimal.length_toString_le (show n + 1 < 2 ^ 64 by omega))

/-- The text of such an error is short. -/
theorem OfReading.length_message_le {e : StorageError} (h : e.OfReading) :
    Utf8.length e.message ≤ 512 := by
  have hinvalid : Utf8.length "invalid data: " ≤ 14 := by decide
  cases h with
  | missing x =>
    have hfront : Utf8.length "missing ledger metadata: " ≤ 25 := by decide
    have hle := Utf8.length_append_le hinvalid (Utf8.length_append_le hfront (length_key_le x))
    exact Nat.le_trans hle (by decide)
  | negative x value =>
    have hfront : Utf8.length "negative ledger metadata " ≤ 25 := by decide
    have hcolon : Utf8.length ": " ≤ 2 := by decide
    have hle := Utf8.length_append_le hinvalid (Utf8.length_append_le (Utf8.length_append_le
      (Utf8.length_append_le hfront (length_key_le x)) hcolon) (length_toInt_le value))
    exact Nat.le_trans hle (by decide)
  | @page index length hindex hlength =>
    have hpage : Utf8.length "page " ≤ 5 := by decide
    have hhas : Utf8.length " has " ≤ 5 := by decide
    have hbytes : Utf8.length " bytes, expected " ≤ 17 := by decide
    have hle := Utf8.length_append_le hinvalid (Utf8.length_append_le (Utf8.length_append_le
      (Utf8.length_append_le (Utf8.length_append_le (Utf8.length_append_le hpage
        (Decimal.length_toString_le hindex)) hhas) (Decimal.length_toString_le hlength)) hbytes)
      (Decimal.length_toString_le (show pageSize < 2 ^ 64 by decide)))
    exact Nat.le_trans hle (by decide)
  | range offset stop capacity =>
    have hrange : Utf8.length "range [" ≤ 7 := by decide
    have hdots : Utf8.length ".." ≤ 2 := by decide
    have hcapacity : Utf8.length ") is outside storage capacity " ≤ 30 := by decide
    have hle := Utf8.length_append_le (Utf8.length_append_le (Utf8.length_append_le
      (Utf8.length_append_le (Utf8.length_append_le hrange (Decimal.length_text_le offset)) hdots)
      (Decimal.length_text_le stop)) hcapacity) (Decimal.length_text_le capacity)
    exact Nat.le_trans hle (by decide)
  | memory stop =>
    have hfront : Utf8.length "cannot grow storage to hold " ≤ 28 := by decide
    have hbytes : Utf8.length " bytes" ≤ 6 := by decide
    have hle := Utf8.length_append_le
      (Utf8.length_append_le hfront (Decimal.length_text_le stop)) hbytes
    exact Nat.le_trans hle (by decide)

end StorageError

/-! ## What storage gives -/

namespace Reply

end Reply

section

variable {σ : Type} [Storage σ] {s : σ}

end

/-! ## Pages that were tampered with -/

namespace Tables

variable {t : Tables}

end Tables

/-! ## Ledgers in the same process -/

namespace Ledger

end Ledger

end ByteLedger
