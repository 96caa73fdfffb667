import ByteLedger.Cbor.Item
import ByteLedger.Message.Basic

set_option autoImplicit false

/-!
# Messages in CBOR

A message is a map from the names of its fields to their values, written in order with
given lengths. A reply is a map of one pair, from the name of its kind to its body.

Reading takes the fields in any order and passes over those of other names. What follows
a message is not read. A reply is also read from the name of its kind with the body
right after it, and the body of a refusal from an array that begins with the reason.
-/

namespace ByteLedger

open Cbor

/-- The names of the fields and of the kinds of reply. -/
def Message.name (s : String) : Bytes := Utf8.encode s

/-- A message that cannot be read is an invalid one. -/
def Message.decoded {α : Type} : Except Fault (α × Bytes) → Except SyncError α
  | .ok (x, _) => .ok x
  | .error fault => .error (.invalidMessage ("CBOR decode failed: " ++ fault.message))

namespace Request

/-- The CBOR form of a request. -/
def encode (r : Request) : Bytes :=
  headBytes 5 2
    ++ (textItem "cursor" ++ optionItem textItem r.cursor)
    ++ (textItem "bytes_before" ++ optionItem bytesItem r.bytesBefore)

/-- The fields of a request that were read so far. -/
structure Draft where
  cursor : Option (Option String) := none
  bytesBefore : Option (Option Bytes) := none

/-- Reads one field of a request. -/
def readField (name : Bytes) (draft : Draft) : Reader Draft :=
  if name = Message.name "cursor" then
    (fun x => { draft with cursor := x }) <$> readOnce (readOption readText) draft.cursor
  else if name = Message.name "bytes_before" then
    (fun x => { draft with bytesBefore := x })
      <$> readOnce (readOption readByteString) draft.bytesBefore
  else do
    skip (depthLimit - 1)
    return draft

/-- Reads a request. A field that is not there is none. -/
def read : Reader Request := do
  match ← readUntagged with
  | .map count =>
    let draft ← readFieldsOf readField count {}
    return { cursor := draft.cursor.join, bytesBefore := draft.bytesBefore.join }
  | _ => fail .unexpected

/-- The request at the front of a byte string. -/
def decode (bs : Bytes) : Except SyncError Request := Message.decoded (read bs)

end Request

namespace Response

/-- The CBOR form of a window. -/
def encode (r : Response) : Bytes :=
  headBytes 5 2
    ++ (textItem "cursor" ++ textItem r.cursor)
    ++ (textItem "data" ++ bytesItem r.data)

/-- The fields of a window that were read so far. -/
structure Draft where
  cursor : Option String := none
  data : Option Bytes := none

/-- Reads one field of a window. -/
def readField (name : Bytes) (draft : Draft) : Reader Draft :=
  if name = Message.name "cursor" then
    (fun x => { draft with cursor := x }) <$> readOnce readText draft.cursor
  else if name = Message.name "data" then
    (fun x => { draft with data := x }) <$> readOnce readByteString draft.data
  else do
    skip (depthLimit - 2)
    return draft

/-- Reads a window, which has both fields. -/
def read : Reader Response := do
  match ← readUntagged with
  | .map count =>
    let draft ← readFieldsOf readField count {}
    let cursor ← require draft.cursor
    let data ← require draft.data
    return { cursor, data }
  | _ => fail .unexpected

end Response

namespace Reply

/-- The CBOR form of a reply. -/
def encode : Reply → Bytes
  | window response => headBytes 5 1 ++ textItem "Data" ++ response.encode
  | refusal reason =>
    headBytes 5 1 ++ textItem "Error"
      ++ (headBytes 5 1 ++ (textItem "message" ++ textItem reason))

/-- Reads one field of a refusal. -/
def readReasonField (name : Bytes) (reason : Option String) : Reader (Option String) :=
  if name = Message.name "message" then readOnce readText reason
  else do
    skip (depthLimit - 2)
    return reason

/-- Reads the body of a refusal: a record, or an array whose first item is the reason.
No tag may stand before it. -/
def readReason : Reader String := do
  match ← readHead with
  | .map count =>
    let reason ← readFieldsOf readReasonField count none
    require reason
  | .array (some 0) => fail .missingField
  | .array (some _) => readText
  | .array none => if ← readStop then fail .missingField else readText
  | _ => fail .unexpected

/-- Reads the name of a kind of reply and the body that belongs to it. -/
def readNamed : Reader Reply := do
  let name ← readName
  if name = Message.name "Data" then .window <$> Response.read
  else if name = Message.name "Error" then .refusal <$> readReason
  else fail .unknownName

/-- Reads a reply. Without a map around it the name has to be a text, and no tag may
stand between a map and its only pair but those before the name. -/
def read : Reader Reply := fun bs =>
  match readUntagged bs with
  | .error e => .error e
  | .ok (.map (some 1), rest) => readNamed rest
  | .ok (.text _, _) => readNamed bs
  | .ok _ => .error .unexpected

/-- The reply at the front of a byte string. -/
def decode (bs : Bytes) : Except SyncError Reply := Message.decoded (read bs)

end Reply

end ByteLedger
