import ByteLedger.Text.Decimal

set_option autoImplicit false

/-!
# Why storage fails
-/

namespace ByteLedger

/-- Why an operation on storage fails. -/
inductive StorageError where
  /-- The database engine refused a statement. -/
  | database (detail : String)
  /-- A range reaches past the capacity, or past the greatest offset. -/
  | outOfRange (offset stop capacity : Offset)
  /-- A write begins before the data partition. -/
  | belowPartition (offset dataStart : Offset)
  /-- The storage cannot hold that many bytes. -/
  | capacityExceeded (stop : Offset)
  /-- What is stored is not a ledger, or does not fit into the store. -/
  | invalidData (detail : String)
  /-- The schema of the store is not one that this library knows. -/
  | migration (detail : String)
  /-- The lock of the store was left by a failed holder. -/
  | poisoned (detail : String)
  /-- A task that works for the store did not finish. -/
  | task (detail : String)
  deriving DecidableEq, Repr, Inhabited

namespace StorageError

/-- The text of an error. -/
def message : StorageError → String
  | database detail => "database error: " ++ detail
  | outOfRange offset stop capacity =>
    "range [" ++ Decimal.text offset ++ ".." ++ Decimal.text stop
      ++ ") is outside storage capacity " ++ Decimal.text capacity
  | belowPartition offset dataStart =>
    "write at " ++ Decimal.text offset ++ " precedes data partition start "
      ++ Decimal.text dataStart
  | capacityExceeded stop => "cannot grow storage to hold " ++ Decimal.text stop ++ " bytes"
  | invalidData detail => "invalid data: " ++ detail
  | migration detail => "migration error: " ++ detail
  | poisoned detail => "storage lock poisoned: " ++ detail
  | task detail => "storage task failed: " ++ detail

end StorageError

end ByteLedger
