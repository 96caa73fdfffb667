import ByteLedger.Cursor.Basic
import ByteLedger.Text.Decimal

set_option autoImplicit false

/-!
# The wire text of a cursor

A cursor travels as a query string,

    position=4096&response_bytes=512&direction=forward&more=true

and a request carries its position alone. Reading never fails: it starts from the
default cursor and lets each piece between ampersands set the field that its key
names, so that the last piece with a key wins, a malformed value stands for the
default, and pieces with foreign keys are skipped. The bounds of the data do not
travel and read as zero.
-/

namespace ByteLedger.Cursor

/-- The fields that travel. -/
inductive Field where
  | position
  | responseBytes
  | direction
  | more
  deriving DecidableEq, Repr, Inhabited

namespace Field

/-- The key of a field. -/
def key : Field → String
  | position => "position"
  | responseBytes => "response_bytes"
  | direction => "direction"
  | more => "more"

/-- The fields in the order in which they are written. -/
def all : List Field := [position, responseBytes, direction, more]

/-- The field with the given key. -/
def ofKey? (key : List Char) : Option Field := all.find? (·.key.toList == key)

end Field

/-- The text of a truth value. -/
def flagText : Bool → String
  | true => "true"
  | false => "false"

/-- The written value of a field. -/
def fieldText (c : Cursor) : Field → String
  | .position => Decimal.text c.position
  | .responseBytes => Decimal.text c.responseBytes
  | .direction => c.direction.token
  | .more => flagText c.more

/-- One written field: its key, an equals sign and its value. -/
def pieceText (c : Cursor) (f : Field) : String := f.key ++ "=" ++ c.fieldText f

/-- The request form of a cursor: its position alone. -/
def toRequestText (c : Cursor) : String := c.pieceText .position

/-- The wire text of a cursor. -/
def toWire (c : Cursor) : String := "&".intercalate (Field.all.map c.pieceText)

/-- The cursor with one field read from `value`; a malformed value sets the default. -/
def readField (c : Cursor) (value : List Char) : Field → Cursor
  | .position => { c with position := (Decimal.word? value).getD 0 }
  | .responseBytes => { c with responseBytes := (Decimal.word? value).getD 0 }
  | .direction => { c with direction := (Direction.ofToken? (String.ofList value)).getD .forward }
  | .more => { c with more := String.ofList value == flagText true }

/-- The key of a piece: what stands before its first equals sign, or all of it. -/
def pieceKey (piece : List Char) : List Char := piece.takeWhile (· != '=')

/-- The value of a piece: what stands after its first equals sign, if it has one. -/
def pieceValue (piece : List Char) : List Char := (piece.dropWhile (· != '=')).drop 1

/-- The cursor after one more piece. -/
def readPiece (c : Cursor) (piece : List Char) : Cursor :=
  match Field.ofKey? (pieceKey piece) with
  | some f => c.readField (pieceValue piece) f
  | none => c

/-- The cursor that a wire text describes. -/
def ofWire (wire : String) : Cursor := (wire.toList.splitOn '&').foldl readPiece {}

end ByteLedger.Cursor
