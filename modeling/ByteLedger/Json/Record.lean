import ByteLedger.Json.Basic

set_option autoImplicit false

/-!
# Records in JSON

A record is written as an object with its fields in order. It is read from an object in
which each field occurs exactly once, between members of other names that are skipped,
or from an array of the values of the fields in order. `Json.fields?` is that rule.
-/

namespace ByteLedger.Json

/-- The names of an object's members, if all of them are texts. -/
def memberNames? : List (List Element × Json) → Option (List (List Char))
  | [] => some []
  | (name, _) :: rest =>
    match chars? name, memberNames? rest with
    | some n, some ns => some (n :: ns)
    | _, _ => none

/-- The value of the only member of the given name. -/
def soleMember? (members : List (List Element × Json)) (name : String) : Option Json :=
  match members.filter (fun m => chars? m.1 == some name.toList) with
  | [m] => some m.2
  | _ => none

/-- The values of the fields of a record, in the order of `names`. -/
def fields? (names : List String) : Json → Option (List Json)
  | .object members =>
    match memberNames? members with
    | some _ => names.mapM (soleMember? members)
    | none => none
  | .array items => if items.length = names.length then some items else none
  | _ => none

/-- The object with the given fields. -/
def record (fields : List (String × Json)) : Json :=
  .object (fields.map fun f => (ofChars f.1.toList, f.2))

end ByteLedger.Json
