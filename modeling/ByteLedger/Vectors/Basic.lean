import ByteLedger.Cursor.Wire
import ByteLedger.Geometry.Basic

set_option autoImplicit false

/-!
# Golden vectors

Cases that pin down the window algorithm and the wire text of cursors, so that all who
serve the same ledger answer alike. A case holds its inputs and what must come out;
`WindowVector.passes` and `WireVector.passes` compare.
-/

namespace ByteLedger

/-- The cursor that a window case asks for. Its direction is always forward. -/
structure ExpectedWindow where
  dataBegin : Offset
  position : Offset
  dataEnd : Offset
  responseBytes : Offset
  more : Bool
  deriving DecidableEq, Repr, Inhabited

namespace ExpectedWindow

/-- The expectation to be caught up at `frontier`. -/
def caughtUp (frontier : Offset) : ExpectedWindow where
  dataBegin := frontier
  position := frontier
  dataEnd := frontier
  responseBytes := 0
  more := false

/-- The expected cursor in full. -/
def cursor (w : ExpectedWindow) : Cursor where
  dataBegin := w.dataBegin
  position := w.position
  dataEnd := w.dataEnd
  responseBytes := w.responseBytes
  direction := .forward
  more := w.more

/-- Whether a cursor is the expected one. -/
def admits (w : ExpectedWindow) (c : Cursor) : Bool := c == w.cursor

end ExpectedWindow

/-- One case of the window algorithm. -/
structure WindowVector where
  name : String
  geometry : Geometry
  requested : Offset
  limit : Offset
  expected : ExpectedWindow
  deriving DecidableEq, Repr, Inhabited

namespace WindowVector

/-- The window that the algorithm finds. -/
def computed (v : WindowVector) : Cursor := v.geometry.window v.requested v.limit

/-- Whether the algorithm finds the expected window. -/
def passes (v : WindowVector) : Bool := v.expected.admits v.computed

end WindowVector

/-- A wire text and the fields that it must decode to. -/
structure WireVector where
  name : String
  wire : String
  position : Offset
  responseBytes : Offset
  direction : Direction
  more : Bool
  deriving DecidableEq, Repr, Inhabited

namespace WireVector

/-- Whether the wire text decodes to the expected fields and to zero bounds. -/
def passes (v : WireVector) : Bool :=
  Cursor.ofWire v.wire ==
    { position := v.position, responseBytes := v.responseBytes,
      direction := v.direction, more := v.more }

end WireVector

end ByteLedger
