import ByteLedger.Cursor.Basic

set_option autoImplicit false

/-!
# Geometry and windows

A geometry is a snapshot of where a ledger's data begins, how many bytes its storage
has, and which offset is written next. The window algorithm is total: from a geometry,
a requested offset and a size limit it computes the cursor of the next window, and the
caught-up cursor where no byte can be served.
-/

namespace ByteLedger

/-- A snapshot of the extent of a ledger. -/
structure Geometry where
  /-- Where the data partition begins. -/
  dataStart : Offset := 0
  /-- The number of bytes that the storage has. -/
  capacity : Offset := 0
  /-- The first free offset. -/
  nextWrite : Offset := 0
  deriving DecidableEq, Repr, Inhabited

namespace Geometry

/-- The end of the data that can be read: the first free offset, but no more than the
capacity. -/
def frontier (g : Geometry) : Offset := min g.nextWrite g.capacity

theorem toNat_frontier (g : Geometry) :
    g.frontier.toNat = min g.nextWrite.toNat g.capacity.toNat :=
  Offset.toNat_min _ _

/-- The window of at most `limit` bytes from `requested` on. A request before the data
partition is moved to its beginning; where no byte can be served, the answer is the
caught-up cursor at the frontier. -/
def window (g : Geometry) (requested limit : Offset) : Cursor :=
  let start := max g.dataStart requested
  let stop := min (start.advance limit.toNat) g.frontier
  if g.capacity ≤ start ∨ stop ≤ start then .caughtUp g.frontier
  else
    { dataBegin := g.dataStart
      position := start
      dataEnd := g.frontier
      responseBytes := stop - start
      direction := .forward
      more := stop < g.frontier }

/-- The window that starts at the first free offset. It is always the caught-up cursor,
and its position is what a replica asks for. -/
def resume (g : Geometry) (limit : Offset) : Cursor := g.window g.nextWrite limit

end Geometry

/-- The size of a window where nothing else is said: 1 MiB. -/
def defaultWindow : Offset := 1048576

end ByteLedger
