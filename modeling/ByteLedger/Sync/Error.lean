import ByteLedger.Storage.Error

set_option autoImplicit false

/-!
# Why a sync fails
-/

namespace ByteLedger

/-- Why a fetch, or the sync that made it, fails. -/
inductive SyncError where
  /-- The remote refused the request or failed to serve it. -/
  | refused (reason : String)
  /-- The remote answered with a window that begins before what is held here. -/
  | behind (here there : Offset)
  /-- The remote could not be reached. -/
  | transport (reason : String)
  /-- A message could not be written or read. -/
  | invalidMessage (reason : String)
  /-- The local storage failed. -/
  | storage (cause : StorageError)
  deriving DecidableEq, Repr, Inhabited

namespace SyncError

/-- The text of an error. -/
def message : SyncError → String
  | refused reason => "remote error: " ++ reason
  | behind here there =>
    "protocol violation: remote position " ++ Decimal.text there ++ " is behind local position "
      ++ Decimal.text here
  | transport reason => "transport error: " ++ reason
  | invalidMessage reason => "invalid message: " ++ reason
  | storage cause => "store error: " ++ cause.message

end SyncError

end ByteLedger
