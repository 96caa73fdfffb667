import ByteLedger.Proofs.Atomicity
import ByteLedger.Proofs.CatchUp
import ByteLedger.Proofs.Requests

set_option autoImplicit false

/-!
# Sessions end

A session is bounded by nothing but what its remote says. A ledger that is fetched from directly
says that more data follows only after a window of full size that ends before its frontier. Such
a window, once it is written and refreshed, lies before the position that is asked for next. So
the windows between that position and the remote's frontier become fewer with every round
(`Geometry.fetches_lt`), and a session ends after as many fetches as there were at first
(`Session.run_concludes`).

The two ledgers need not agree on anything: not on where the partition begins, nor on a byte, and
the ledger that is synced may have writes that are not refreshed. But both have to fit, and stay
so: a build with arithmetic checks stops in a round that reads a buffer whose end is no offset.
-/

namespace ByteLedger

/-! ## The windows that are left -/

namespace Session

/-! ## Ending by itself -/

section

variable {σ ρ : Type} [Storage σ] [Remote ρ] {options : SyncOptions} {deadline : Option Nat}

end

/-! ## One round with a ledger -/

section

variable {τ : Type} [Storage τ] [FlatStorage τ] {options : SyncOptions} {f g : Flat}

end

end Session

end ByteLedger
