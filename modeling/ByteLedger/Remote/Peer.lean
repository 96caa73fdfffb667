import ByteLedger.Remote.InProcess
import ByteLedger.Remote.Script
import ByteLedger.Replica.Basic
import ByteLedger.Storage.Ledger

set_option autoImplicit false

/-!
# Remotes of any kind

Where the kind of a remote is chosen at run time it is a `Peer`: a ledger in the same
process, a script, or another replica, which follows a peer of its own.
-/

namespace ByteLedger

/-- A remote of any kind. -/
inductive Peer where
  | hosted (h : Hosted Ledger)
  | mailbox (m : Mailbox Ledger)
  | script (s : Script)
  | replica (r : Replica Ledger Peer)

namespace Peer

instance : Remote Peer where
  fetch
    | hosted h, request => (Remote.fetch h request).map hosted
    | mailbox m, request => (Remote.fetch m request).map mailbox
    | script s, request => (Remote.fetch s request).map script
    | replica r, request =>
      { outcome := serve r.storage r.options.serve request, remote := replica r }

end Peer

end ByteLedger
