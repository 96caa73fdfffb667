import ByteLedger.Bytes

set_option autoImplicit false

/-!
# Readers of CBOR

A reader takes what it reads off the front of a byte string and leaves the rest, or
finds a fault. What follows the item that is read plays no part.
-/

namespace ByteLedger.Cbor

/-- Why a byte string is not the expected item. -/
inductive Fault where
  /-- The input ends inside the item. -/
  | truncated
  /-- The head of an item is reserved. -/
  | reserved
  /-- There is an item of another kind. -/
  | unexpected
  /-- A text is not well-formed UTF-8. -/
  | illFormedText
  /-- A number is outside its range. -/
  | outOfRange
  /-- Items are nested too deeply. -/
  | tooDeep
  /-- A field occurs twice. -/
  | repeatedField
  /-- A field that has to be there is not. -/
  | missingField
  /-- A name is none of those expected. -/
  | unknownName
  deriving DecidableEq, Repr, Inhabited

namespace Fault

/-- A fault in words. -/
def message : Fault → String
  | truncated => "unexpected end of input"
  | reserved => "reserved item head"
  | unexpected => "unexpected kind of item"
  | illFormedText => "ill-formed text"
  | outOfRange => "number out of range"
  | tooDeep => "items nested too deeply"
  | repeatedField => "repeated field"
  | missingField => "missing field"
  | unknownName => "unknown name"

end Fault

/-- A reader of an item. -/
abbrev Reader (α : Type) := StateT Bytes (Except Fault) α

namespace Reader

variable {α β : Type}

theorem bind_ok {p : Reader α} {f : α → Reader β} {bs rest : Bytes} {x : α}
    (h : p bs = .ok (x, rest)) : (p >>= f) bs = f x rest := by
  change Except.bind (p bs) (fun r => f r.1 r.2) = _
  rw [h]
  rfl

theorem bind_error {p : Reader α} {f : α → Reader β} {bs : Bytes} {e : Fault}
    (h : p bs = .error e) : (p >>= f) bs = .error e := by
  change Except.bind (p bs) (fun r => f r.1 r.2) = _
  rw [h]
  rfl

end Reader

/-- Nothing is read, and the fault found. -/
def fail {α : Type} (fault : Fault) : Reader α := fun _ => .error fault

/-- One byte. -/
def readByte : Reader UInt8
  | [] => .error .truncated
  | b :: rest => .ok (b, rest)

/-- As many bytes as asked for. -/
def readBytes (n : Nat) : Reader Bytes := fun bs =>
  let front := bs.take n
  if front.length = n then .ok (front, bs.drop n) else .error .truncated

theorem readBytes_append (front rest : Bytes) :
    readBytes front.length (front ++ rest) = .ok (front, rest) := by
  simp [readBytes]

/-- Whether the next byte is `b`; if it is, it is read. -/
def readIf (b : UInt8) : Reader Bool
  | [] => .ok (false, [])
  | c :: rest => if c = b then .ok (true, rest) else .ok (false, c :: rest)

/-- The number that bytes denote, the most significant first. -/
def ofBigEndian (bs : Bytes) : Nat := bs.foldl (fun n b => n * 256 + b.toNat) 0

/-- The bytes of a number, the most significant first. -/
def bigEndian : (width : Nat) → Nat → Bytes
  | 0, _ => []
  | width + 1, n => UInt8.ofNat (n / 256 ^ width) :: bigEndian width n

theorem length_bigEndian (width n : Nat) : (bigEndian width n).length = width := by
  induction width with
  | zero => rfl
  | succ w ih => simp [bigEndian, ih]

/-- A number of `width` bytes. -/
def readNumber (width : Nat) : Reader Nat := do
  let bs ← readBytes width
  return ofBigEndian bs

end ByteLedger.Cbor
