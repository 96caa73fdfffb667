import ByteLedger.Replica.Error
import ByteLedger.Sync.Serving
import ByteLedger.Sync.Session

set_option autoImplicit false

/-!
# Replicas

A replica is a ledger together with the remote that it follows. It syncs under an
optional deadline, and serves its own ledger to others, so that replicas can follow each
other in a chain.
-/

namespace ByteLedger

/-- How a replica works. -/
structure ReplicaOptions where
  sync : SyncOptions := {}
  serve : ServeOptions := {}
  /-- The nanoseconds that a whole sync may take; none if it may take any time. -/
  deadline : Option Nat := none
  deriving DecidableEq, Repr, Inhabited

/-- A ledger and the remote that it follows. -/
structure Replica (σ ρ : Type) where
  storage : σ
  remote : ρ
  options : ReplicaOptions := {}

namespace Replica

variable {σ ρ : Type} [Storage σ] [Remote ρ]

/-- More rounds than a sync can have with a remote that ends: a round that is followed by
another either takes a line of a script or moves the first free offset. -/
def roundLimit : Nat := 2 ^ 65

/-- A session on the ledger and the remote of a replica. -/
def session (r : Replica σ ρ) : Session σ ρ where
  storage := r.storage
  remote := r.remote

/-- The replica with what a session leaves. -/
def afterSession (r : Replica σ ρ) (s : Session σ ρ) : Replica σ ρ :=
  { r with storage := s.storage, remote := s.remote }

/-- The outcome of a session that ended as given; none if it did not end. -/
def syncOutcome (r : Replica σ ρ) : Session.Ending → Option (Except ReplicaError Report)
  | .finished report => some (.ok report)
  | .failed cause => some (.error (.sync cause))
  | .expired => some (.error (.deadlineExceeded (r.options.deadline.getD 0)))
  | .unfinished => none

/-- One sync of a replica, and the replica afterwards. -/
def sync (r : Replica σ ρ) : Option (Except ReplicaError Report) × Replica σ ρ :=
  let (ending, s) := Session.run r.options.sync r.options.deadline roundLimit r.session
  (r.syncOutcome ending, r.afterSession s)

/-- The caught-up cursor at the frontier of a replica. -/
def frontier (r : Replica σ ρ) : Except ReplicaError Cursor :=
  match Storage.geometry r.storage with
  | .error e => .error (.storage e)
  | .ok g => .ok (g.resume r.options.sync.window)

/-- Answers a request from the ledger of a replica. -/
def answer (r : Replica σ ρ) (request : Request) : Except SyncError Response :=
  serve r.storage r.options.serve request

/-- A replica is a remote for others. Its own remote plays no part in that. -/
instance : Remote (Replica σ ρ) where
  fetch r request := { outcome := r.answer request, remote := r }

end Replica

end ByteLedger
