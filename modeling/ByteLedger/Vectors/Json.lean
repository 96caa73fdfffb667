import ByteLedger.Cursor.Json
import ByteLedger.Json.Printer
import ByteLedger.Json.Reader
import ByteLedger.Vectors.Basic

set_option autoImplicit false

/-!
# Golden vectors in JSON

Vectors are shared as JSON: a list of records, with the inputs of a window case beside
its name and the expectation as a record of its own. Window cases are written over
several lines (`WindowVector.listText`) and read back (`WindowVector.listOfText?`).
-/

namespace ByteLedger

namespace ExpectedWindow

/-- The record of an expectation. -/
def toJson (w : ExpectedWindow) : Json :=
  .record
    [("data_begin_position", .ofWord w.dataBegin),
     ("position", .ofWord w.position),
     ("data_end_position", .ofWord w.dataEnd),
     ("response_bytes", .ofWord w.responseBytes),
     ("more", .bool w.more)]

/-- The expectation that a JSON value stands for. -/
def ofJson? (v : Json) : Option ExpectedWindow :=
  match v.fields? ["data_begin_position", "position", "data_end_position", "response_bytes",
      "more"] with
  | some [b, p, e, r, m] => do
    let dataBegin ← b.word?
    let position ← p.word?
    let dataEnd ← e.word?
    let responseBytes ← r.word?
    let more ← m.bool?
    return { dataBegin, position, dataEnd, responseBytes, more }
  | _ => none

end ExpectedWindow

namespace WindowVector

/-- The record of a window case. -/
def toJson (v : WindowVector) : Json :=
  .record
    [("name", .ofText v.name),
     ("data_start", .ofWord v.geometry.dataStart),
     ("capacity", .ofWord v.geometry.capacity),
     ("next_write", .ofWord v.geometry.nextWrite),
     ("requested_start", .ofWord v.requested),
     ("max_window_bytes", .ofWord v.limit),
     ("expected", v.expected.toJson)]

/-- The window case that a JSON value stands for. -/
def ofJson? (v : Json) : Option WindowVector :=
  match v.fields? ["name", "data_start", "capacity", "next_write", "requested_start",
      "max_window_bytes", "expected"] with
  | some [s, d, c, n, r, l, e] => do
    let name ← s.text?
    let dataStart ← d.word?
    let capacity ← c.word?
    let nextWrite ← n.word?
    let requested ← r.word?
    let limit ← l.word?
    let expected ← ExpectedWindow.ofJson? e
    return { name, geometry := { dataStart, capacity, nextWrite }, requested, limit, expected }
  | _ => none

/-- A list of window cases as JSON text, over several lines. -/
def listText (vs : List WindowVector) : String := (Json.array (vs.map toJson)).pretty

/-- The list of window cases that a JSON text holds. -/
def listOfText? (s : String) : Option (List WindowVector) := do
  let v ← Json.parse? s
  let items ← v.items?
  items.mapM ofJson?

end WindowVector

namespace WireVector

/-- The record of a wire case. -/
def toJson (v : WireVector) : Json :=
  .record
    [("name", .ofText v.name),
     ("wire", .ofText v.wire),
     ("position", .ofWord v.position),
     ("response_bytes", .ofWord v.responseBytes),
     ("direction", v.direction.toJson),
     ("more", .bool v.more)]

/-- The wire case that a JSON value stands for. -/
def ofJson? (v : Json) : Option WireVector :=
  match v.fields? ["name", "wire", "position", "response_bytes", "direction", "more"] with
  | some [s, w, p, r, d, m] => do
    let name ← s.text?
    let wire ← w.text?
    let position ← p.word?
    let responseBytes ← r.word?
    let direction ← Direction.ofJson? d
    let more ← m.bool?
    return { name, wire, position, responseBytes, direction, more }
  | _ => none

/-- A list of wire cases as JSON text, without blanks. -/
def listText (vs : List WireVector) : String := (Json.array (vs.map toJson)).compact

/-- The list of wire cases that a JSON text holds. -/
def listOfText? (s : String) : Option (List WireVector) := do
  let v ← Json.parse? s
  let items ← v.items?
  items.mapM ofJson?

end WireVector

end ByteLedger
