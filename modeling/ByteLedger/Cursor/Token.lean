import ByteLedger.Cursor.Basic
import ByteLedger.Text.Quoted

set_option autoImplicit false

/-!
# Reading a direction

Where a text has to be a direction, any other text is an error that shows it.
-/

namespace ByteLedger

/-- A text is no token of a direction. -/
structure UnknownDirection where
  token : String
  deriving DecidableEq, Repr, Inhabited

namespace UnknownDirection

/-- The error in words, with the text in quotes. -/
def message (e : UnknownDirection) : String := "unknown direction: " ++ Quoted.text e.token

end UnknownDirection

/-- The direction that a text names. -/
def Direction.ofToken (s : String) : Except UnknownDirection Direction :=
  match ofToken? s with
  | some d => .ok d
  | none => .error { token := s }

end ByteLedger
