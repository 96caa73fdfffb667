import ByteLedger.Message.Basic

set_option autoImplicit false

/-!
# Remotes

A remote is what a replica fetches from. It takes a request, and after some time, or
never, delivers a window or an error. Fetching may change it.
-/

namespace ByteLedger

/-- What becomes of a request. -/
structure Delivery (ρ : Type) where
  /-- The nanoseconds until the delivery; none if it never comes. -/
  delay : Option Nat := some 0
  /-- What is delivered. -/
  outcome : Except SyncError Response
  /-- The remote afterwards. -/
  remote : ρ

namespace Delivery

variable {ρ ρ' : Type}

/-- The same delivery, with another view of the remote. -/
def map (f : ρ → ρ') (d : Delivery ρ) : Delivery ρ' where
  delay := d.delay
  outcome := d.outcome
  remote := f d.remote

end Delivery

/-- What a replica can fetch from. -/
class Remote (ρ : Type) where
  fetch : ρ → Request → Delivery ρ

end ByteLedger
