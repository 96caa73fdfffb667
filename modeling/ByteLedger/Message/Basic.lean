import ByteLedger.Cursor.Wire
import ByteLedger.Sync.Error
import ByteLedger.Text.Utf8

set_option autoImplicit false

/-!
# Messages

A replica asks for the window at a position and may add the bytes that it holds right
before it. A remote answers with a window, described by the wire text of its cursor, or
with a refusal.
-/

namespace ByteLedger

/-- What a replica asks for. -/
structure Request where
  /-- The request form of a cursor. Without it the start of the ledger is asked for. -/
  cursor : Option String := none
  /-- The bytes that the replica holds right before the position. -/
  bytesBefore : Option Bytes := none
  deriving DecidableEq, Repr, Inhabited

/-- A window of a ledger. -/
structure Response where
  /-- The wire text of the cursor that describes the window. -/
  cursor : String := ""
  /-- The bytes of the window. -/
  data : Bytes := []
  deriving DecidableEq, Repr, Inhabited

/-- What a remote sends back. -/
inductive Reply where
  | window (response : Response)
  | refusal (reason : String)
  deriving DecidableEq, Repr, Inhabited

/-- Which limit a request does not keep. -/
inductive LimitFault where
  | cursorTooLong
  | tooManyBytesBefore
  deriving DecidableEq, Repr, Inhabited

namespace LimitFault

/-- The reason that a refused requester is told. -/
def message : LimitFault → String
  | cursorTooLong => "cursor string too long"
  | tooManyBytesBefore => "too many bytes_before"

end LimitFault

namespace Request

/-- The greatest number of bytes in the text of a cursor. -/
def cursorLimit : Nat := 256

/-- The greatest number of bytes before the position. -/
def bytesBeforeLimit : Nat := 65536

/-- The request for the window at the position of a cursor. -/
def ofCursor (c : Cursor) (bytesBefore : Option Bytes) : Request where
  cursor := some c.toRequestText
  bytesBefore := bytesBefore

/-- The position that is asked for. -/
def position? (r : Request) : Option Offset := r.cursor.map fun c => (Cursor.ofWire c).position

/-- The limit that a request does not keep, the one on the cursor first. -/
def limitFault? (r : Request) : Option LimitFault :=
  if r.cursor.any (cursorLimit < Utf8.length ·) then some .cursorTooLong
  else if r.bytesBefore.any (bytesBeforeLimit < ·.length) then some .tooManyBytesBefore
  else none

end Request

namespace Response

/-- The greatest number of bytes in one window: 8 MiB. -/
def dataLimit : Offset := 8388608

/-- The window that a cursor describes. -/
def ofCursor (c : Cursor) (data : Bytes) : Response where
  cursor := c.toWire
  data := data

/-- The cursor that describes the window. -/
def parsed (r : Response) : Cursor := Cursor.ofWire r.cursor

end Response

namespace Reply

/-- The reply that carries the outcome of a fetch. An error other than a refusal becomes
a refusal with the text of the error. -/
def ofOutcome : Except SyncError Response → Reply
  | .ok response => .window response
  | .error (.refused reason) => .refusal reason
  | .error e => .refusal e.message

/-- The outcome of a fetch with the given reply. -/
def outcome : Reply → Except SyncError Response
  | window response => .ok response
  | refusal reason => .error (.refused reason)

end Reply

end ByteLedger
