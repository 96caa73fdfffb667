import ByteLedger.Cursor.Basic
import ByteLedger.Json.Record

set_option autoImplicit false

/-!
# Cursors in JSON

All six fields of a cursor are written, in order. A direction is written as its token;
it is read from its token, or from an object whose only member has the token as its
name and null as its value.
-/

namespace ByteLedger

namespace Direction

/-- The token as a JSON string. -/
def toJson (d : Direction) : Json := .ofText d.token

/-- The direction that a JSON value stands for. -/
def ofJson? : Json → Option Direction
  | .object [(name, .null)] => (Json.chars? name).bind fun cs => ofToken? (String.ofList cs)
  | v => v.text?.bind ofToken?

theorem ofJson?_toJson (d : Direction) : ofJson? d.toJson = some d := by
  have h : ofJson? d.toJson = (Json.ofText d.token).text?.bind ofToken? := rfl
  rw [h, Json.text?_ofText, Option.bind_some, ofToken?_eq_some_iff]

end Direction

namespace Cursor

/-- The record of the six fields. -/
def toJson (c : Cursor) : Json :=
  .record
    [("data_begin_position", .ofWord c.dataBegin),
     ("position", .ofWord c.position),
     ("data_end_position", .ofWord c.dataEnd),
     ("response_bytes", .ofWord c.responseBytes),
     ("direction", c.direction.toJson),
     ("more", .bool c.more)]

/-- The names of the fields, in the order in which they are written. -/
def fieldNames : List String :=
  ["data_begin_position", "position", "data_end_position", "response_bytes", "direction", "more"]

/-- The cursor that a JSON value stands for. -/
def ofJson? (v : Json) : Option Cursor :=
  match v.fields? fieldNames with
  | some [b, p, e, r, d, m] => do
    let dataBegin ← b.word?
    let position ← p.word?
    let dataEnd ← e.word?
    let responseBytes ← r.word?
    let direction ← Direction.ofJson? d
    let more ← m.bool?
    return { dataBegin, position, dataEnd, responseBytes, direction, more }
  | _ => none

end Cursor

end ByteLedger
