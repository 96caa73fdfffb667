import ByteLedger.Remote.Basic
import ByteLedger.Storage.Basic

set_option autoImplicit false

/-!
# Sessions

A session brings a storage up to the frontier of a remote, one window a round. Each
round asks for the window at the first free offset, refuses an answer that begins before
that, and appends the bytes of the window. The session ends when a window says that no
more data follows, or at the first error; what earlier rounds appended stays.

A round falls into what it asks for (`SyncOptions.nextRequest`), the delivery, and what
it does with the window (`applyWindow`). The rounds of a session are bounded by a limit,
because a remote may say without end that more data follows.
-/

namespace ByteLedger

/-- How a storage is synced. -/
structure SyncOptions where
  /-- The window size for which the local cursor is computed. -/
  window : Offset := defaultWindow
  /-- How many bytes before the position go along with a request. Nothing goes along
  while the position is not greater than that. -/
  lookBack : Offset := 1024
  deriving DecidableEq, Repr, Inhabited

/-- What a session has done so far. -/
structure Progress where
  /-- The number of rounds begun. -/
  rounds : Nat := 0
  /-- The number of windows written. -/
  chunksApplied : Nat := 0
  /-- The number of bytes written. -/
  bytesWritten : Nat := 0
  deriving DecidableEq, Repr, Inhabited

namespace Progress

/-- One more round is begun. -/
def beginRound (p : Progress) : Progress := { p with rounds := p.rounds + 1 }

/-- One more window is applied. An empty one does not count. -/
def count (p : Progress) (r : Response) : Progress :=
  if r.data.isEmpty then p
  else
    { p with
      chunksApplied := p.chunksApplied + 1
      bytesWritten := p.bytesWritten + r.data.length }

end Progress

/-- What a session has done when it ends. -/
structure Report where
  progress : Progress
  /-- The first free offset at the end. -/
  finalPosition : Offset
  deriving DecidableEq, Repr, Inhabited

section

variable {σ ρ : Type} [Storage σ] [Remote ρ]

/-- The bytes that go along with a request for a position. -/
def SyncOptions.bytesBefore (options : SyncOptions) (s : σ) (position : Offset) :
    Except StorageError (Option Bytes) :=
  if options.lookBack = 0 ∨ position ≤ options.lookBack then .ok none
  else
    match Storage.read s (position - options.lookBack) options.lookBack with
    | .error e => .error e
    | .ok bytes => .ok (some bytes)

/-- The position that a storage lacks first, and the request for the window there. -/
def SyncOptions.nextRequest (options : SyncOptions) (s : σ) :
    Except StorageError (Offset × Request) :=
  match Storage.geometry s with
  | .error e => .error e
  | .ok g =>
    let c := g.resume options.window
    match options.bytesBefore s c.position with
    | .error e => .error e
    | .ok bytesBefore => .ok (c.position, Request.ofCursor c bytesBefore)

/-- Appends the bytes of a window that was asked for at `position`. -/
def applyWindow (s : σ) (position : Offset) (r : Response) : Except SyncError Unit × σ :=
  if r.parsed.position < position then (.error (.behind position r.parsed.position), s)
  else if r.data.isEmpty then (.ok (), s)
  else
    match Storage.append s r.parsed.position r.data with
    | (.ok (), s) => (.ok (), s)
    | (.error e, s) => (.error (.storage e), s)

end

/-- A session: the storage, the remote, and what was done so far. -/
structure Session (σ ρ : Type) where
  storage : σ
  remote : ρ
  progress : Progress := {}
  /-- The nanoseconds that passed. -/
  elapsed : Nat := 0

/-- What comes after a round. -/
inductive Session.Outcome where
  /-- The remote has more data. -/
  | more
  /-- The remote has no more data. -/
  | finished
  | failed (cause : SyncError)
  /-- The deadline passed during the fetch. -/
  | expired
  /-- The fetch is never answered, and there is no deadline. -/
  | unanswered
  deriving DecidableEq, Repr, Inhabited

/-- How a session ends. -/
inductive Session.Ending where
  | finished (report : Report)
  | failed (cause : SyncError)
  /-- The deadline passed. -/
  | expired
  /-- The last fetch is never answered, or the limit of rounds is reached. -/
  | unfinished
  deriving DecidableEq, Repr, Inhabited

namespace Session

variable {σ ρ : Type} [Storage σ] [Remote ρ]

/-- The time at which a delivery comes, if it comes before the deadline. -/
def arrival? (deadline : Option Nat) (elapsed : Nat) (delay : Option Nat) : Option Nat :=
  match delay with
  | none => none
  | some d =>
    match deadline with
    | none => some (elapsed + d)
    | some limit => if elapsed + d ≤ limit then some (elapsed + d) else none

/-- What comes of a delivery that was asked for at `position`. -/
def receive (s : Session σ ρ) (position : Offset) (outcome : Except SyncError Response) :
    Outcome × Session σ ρ :=
  match outcome with
  | .error e => (.failed e, s)
  | .ok response =>
    match applyWindow s.storage position response with
    | (.error e, storage) => (.failed e, { s with storage })
    | (.ok (), storage) =>
      (if response.parsed.more then .more else .finished,
        { s with storage, progress := s.progress.count response })

/-- One round. -/
def round (options : SyncOptions) (deadline : Option Nat) (s : Session σ ρ) :
    Outcome × Session σ ρ :=
  let s := { s with progress := s.progress.beginRound }
  match options.nextRequest s.storage with
  | .error e => (.failed (.storage e), s)
  | .ok (position, request) =>
    let d := Remote.fetch s.remote request
    match arrival? deadline s.elapsed d.delay with
    | none =>
      (if deadline.isSome then .expired else .unanswered, { s with remote := d.remote })
    | some now => receive { s with remote := d.remote, elapsed := now } position d.outcome

/-- The report on a session whose remote has no more data. -/
def report (s : Session σ ρ) : Ending :=
  match Storage.nextWrite s.storage with
  | .error e => .failed (.storage e)
  | .ok finalPosition => .finished { progress := s.progress, finalPosition }

/-- Rounds until the session ends, but no more than `limit`. -/
def run (options : SyncOptions) (deadline : Option Nat) :
    (limit : Nat) → Session σ ρ → Ending × Session σ ρ
  | 0, s => (.unfinished, s)
  | limit + 1, s =>
    match round options deadline s with
    | (.more, s) => run options deadline limit s
    | (.finished, s) => (s.report, s)
    | (.failed e, s) => (.failed e, s)
    | (.expired, s) => (.expired, s)
    | (.unanswered, s) => (.unfinished, s)

end Session

end ByteLedger
