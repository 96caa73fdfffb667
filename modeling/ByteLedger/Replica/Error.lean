import ByteLedger.Sync.Error
import ByteLedger.Text.Duration

set_option autoImplicit false

/-!
# Why an operation of a replica fails
-/

namespace ByteLedger

/-- Why an operation of a replica fails. -/
inductive ReplicaError where
  /-- The local storage failed. -/
  | storage (cause : StorageError)
  /-- A sync or a fetch failed. -/
  | sync (cause : SyncError)
  /-- A sync did not end within its deadline, which is given in nanoseconds. -/
  | deadlineExceeded (deadline : Nat)
  deriving DecidableEq, Repr, Inhabited

namespace ReplicaError

/-- The text of an error. -/
def message : ReplicaError → String
  | storage cause => "storage error: " ++ cause.message
  | sync cause => "sync error: " ++ cause.message
  | deadlineExceeded deadline => "sync deadline of " ++ Duration.text deadline ++ " exceeded"

end ReplicaError

end ByteLedger
