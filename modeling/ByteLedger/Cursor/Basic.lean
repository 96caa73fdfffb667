import ByteLedger.Offset

set_option autoImplicit false

/-!
# Cursors

A cursor describes one window of a ledger: the bytes from `position` on, as many as
`responseBytes`, together with the bounds of the data it was computed against and
whether more data follows. Cursors are plain values; each step of a sync computes a
new one.
-/

namespace ByteLedger

/-- The direction in which a cursor travels. -/
inductive Direction where
  | forward
  | backward
  deriving DecidableEq, Repr, Inhabited

namespace Direction

/-- The token of a direction. -/
def token : Direction → String
  | forward => "forward"
  | backward => "backward"

/-- The direction with the given token. -/
def ofToken? (s : String) : Option Direction :=
  if s = forward.token then some forward
  else if s = backward.token then some backward
  else none

theorem ofToken?_eq_some_iff {s : String} {d : Direction} :
    ofToken? s = some d ↔ s = d.token := by
  unfold ofToken?
  constructor
  · intro h
    split at h
    · rename_i hs
      cases h
      exact hs
    · split at h
      · rename_i hs
        cases h
        exact hs
      · cases h
  · rintro rfl
    cases d <;> decide

end Direction

/-- A window of the ledger. -/
structure Cursor where
  /-- Where the data partition begins. -/
  dataBegin : Offset := 0
  /-- The first offset of the window. -/
  position : Offset := 0
  /-- One past the last byte known to exist. -/
  dataEnd : Offset := 0
  /-- How many bytes the window spans. -/
  responseBytes : Offset := 0
  /-- The direction of travel. -/
  direction : Direction := .forward
  /-- Whether data exists past the window. -/
  more : Bool := false
  deriving DecidableEq, Repr, Inhabited

namespace Cursor

/-- The empty window at the frontier, which says that there is nothing to fetch. -/
def caughtUp (frontier : Offset) : Cursor where
  dataBegin := frontier
  position := frontier
  dataEnd := frontier

/-- One past the last byte of the window, or the greatest offset if that is less. -/
def endPosition (c : Cursor) : Offset := c.position.advance c.responseBytes.toNat

/-- An empty window with nothing after it. -/
def isCaughtUp (c : Cursor) : Bool := c.responseBytes == 0 && !c.more

/-- Two cursors agree on the wire if they agree in the four fields that travel. -/
def wireEq (a b : Cursor) : Bool :=
  a.position == b.position && a.responseBytes == b.responseBytes
    && a.direction == b.direction && a.more == b.more

theorem isCaughtUp_caughtUp (frontier : Offset) : (caughtUp frontier).isCaughtUp = true := rfl

theorem wireEq_iff {a b : Cursor} :
    a.wireEq b = true ↔ a.position = b.position ∧ a.responseBytes = b.responseBytes
      ∧ a.direction = b.direction ∧ a.more = b.more := by
  simp [wireEq, and_assoc]

end Cursor

end ByteLedger
