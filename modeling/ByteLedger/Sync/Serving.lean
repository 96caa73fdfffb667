import ByteLedger.Message.Basic
import ByteLedger.Storage.Basic

set_option autoImplicit false

/-!
# Serving fetches

A responder answers a request from its own ledger. It refuses a request that does not
keep the limits, and one whose bytes before the position disagree with its own history;
else it answers with the window at the position. A position past the frontier gets the
caught-up cursor.

Histories are compared only where both sides hold bytes: inside the responder's committed
data, and from the first offset that the requester's bytes stand for up to the position.
-/

namespace ByteLedger

/-- How a responder serves. -/
structure ServeOptions where
  /-- The greatest number of bytes in one window. -/
  limit : Offset := defaultWindow
  deriving DecidableEq, Repr, Inhabited

/-- The first disagreement of two histories. -/
structure Divergence where
  /-- Where the histories disagree. -/
  offset : Offset
  /-- What the requester holds from there on. -/
  theirs : Bytes
  /-- What the responder holds from there on. -/
  ours : Bytes
  deriving DecidableEq, Repr, Inhabited

namespace Divergence

/-- How many bytes of each side a divergence shows. -/
def context : Nat := 8

/-- The reason that a refused requester is told. -/
def message (d : Divergence) : String :=
  "history diverged at offset " ++ Decimal.text d.offset ++ ": requester=" ++ Bytes.hex d.theirs
    ++ " responder=" ++ Bytes.hex d.ours

/-- The first disagreement of two byte strings that both begin at `start`. -/
def find? (start : Offset) (theirs ours : Bytes) : Option Divergence :=
  match Bytes.firstDifference? ours theirs with
  | none => none
  | some i =>
    some
      { offset := start.advance i
        theirs := Bytes.slice theirs i context
        ours := Bytes.slice ours i context }

end Divergence

variable {σ : Type} [Storage σ]

/-- Checks that the bytes which a requester holds right before `position` are those of
the ledger, as far as it has committed any there. -/
def checkHistory (s : σ) (position : Offset) (bytesBefore : Bytes) : Except SyncError Unit :=
  match Storage.geometry s with
  | .error e => .error (.storage e)
  | .ok g =>
    let claimed := position.retreat bytesBefore.length
    let start := max claimed g.dataStart
    let stop := min position g.frontier
    if stop ≤ start then .ok ()
    else
      match Storage.read s start (stop - start) with
      | .error e => .error (.storage e)
      | .ok ours =>
        let theirs := Bytes.slice bytesBefore (start - claimed).toNat ours.length
        match Divergence.find? start theirs ours with
        | none => .ok ()
        | some d => .error (.refused d.message)

/-- The window at a position, with its bytes. -/
def windowAt (s : σ) (g : Geometry) (position limit : Offset) : Except SyncError Response :=
  let c := g.window position (min limit Response.dataLimit)
  if c.responseBytes = 0 then .ok (.ofCursor c [])
  else
    match Storage.read s c.position c.responseBytes with
    | .error e => .error (.storage e)
    | .ok data => .ok (.ofCursor c data)

/-- Answers a request. One without a cursor is served from the start of the data
partition. -/
def serve (s : σ) (options : ServeOptions) (request : Request) : Except SyncError Response :=
  match request.limitFault? with
  | some fault => .error (.refused fault.message)
  | none =>
    match Storage.geometry s with
    | .error e => .error (.storage e)
    | .ok g =>
      let position := request.position?.getD g.dataStart
      match request.bytesBefore with
      | none => windowAt s g position options.limit
      | some bytesBefore =>
        match checkHistory s position bytesBefore with
        | .error e => .error e
        | .ok () => windowAt s g position options.limit

end ByteLedger
