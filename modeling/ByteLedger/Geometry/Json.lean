import ByteLedger.Geometry.Basic
import ByteLedger.Json.Record

set_option autoImplicit false

/-!
# Geometries in JSON

The three extents of a geometry are written, in order.
-/

namespace ByteLedger.Geometry

/-- The record of the three extents. -/
def toJson (g : Geometry) : Json :=
  .record
    [("data_start", .ofWord g.dataStart),
     ("capacity", .ofWord g.capacity),
     ("next_write", .ofWord g.nextWrite)]

/-- The geometry that a JSON value stands for. -/
def ofJson? (v : Json) : Option Geometry :=
  match v.fields? ["data_start", "capacity", "next_write"] with
  | some [d, c, n] => do
    let dataStart ← d.word?
    let capacity ← c.word?
    let nextWrite ← n.word?
    return { dataStart, capacity, nextWrite }
  | _ => none

end ByteLedger.Geometry
