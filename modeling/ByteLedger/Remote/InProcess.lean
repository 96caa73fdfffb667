import ByteLedger.Message.Codec
import ByteLedger.Remote.Basic
import ByteLedger.Sync.Serving

set_option autoImplicit false

/-!
# Remotes in the same process

A ledger can be fetched from directly (`Hosted`), or through the mailbox of a task that
holds it (`Mailbox`). In both cases the request and the reply pass through their CBOR
form, as they would on their way to another process.
-/

namespace ByteLedger

/-- A ledger that is fetched from directly. -/
structure Hosted (σ : Type) where
  storage : σ
  options : ServeOptions := {}
  deriving Repr, Inhabited

namespace Hosted

variable {σ : Type} [Storage σ]

/-- The outcome of a fetch. -/
def answer (h : Hosted σ) (request : Request) : Except SyncError Response :=
  match Request.decode request.encode with
  | .error e => .error e
  | .ok request =>
    match Reply.decode (Reply.ofOutcome (serve h.storage h.options request)).encode with
    | .error e => .error e
    | .ok reply => reply.outcome

instance : Remote (Hosted σ) where
  fetch h request := { outcome := h.answer request, remote := h }

end Hosted

/-- A ledger that is fetched from through the mailbox of the task that holds it. -/
structure Mailbox (σ : Type) where
  storage : σ
  options : ServeOptions := {}
  /-- Whether the task still takes requests. -/
  isOpen : Bool := true
  deriving Repr, Inhabited

namespace Mailbox

variable {σ : Type} [Storage σ]

/-- The bytes that the task sends back for the bytes of a request. -/
def reply (m : Mailbox σ) (request : Bytes) : Bytes :=
  (Reply.ofOutcome
    (match Request.decode request with
    | .error e => .error e
    | .ok request => serve m.storage m.options request)).encode

/-- The outcome of a fetch. -/
def answer (m : Mailbox σ) (request : Request) : Except SyncError Response :=
  if m.isOpen then
    match Reply.decode (m.reply request.encode) with
    | .error e => .error e
    | .ok reply => reply.outcome
  else .error (.transport "responder mailbox closed")

/-- The mailbox after its task has ended. -/
def close (m : Mailbox σ) : Mailbox σ := { m with isOpen := false }

instance : Remote (Mailbox σ) where
  fetch m request := { outcome := m.answer request, remote := m }

end Mailbox

end ByteLedger
