import ByteLedger.Cbor.Head
import ByteLedger.Text.Utf8

set_option autoImplicit false

/-!
# Items

The items of which messages are made: texts, byte strings, null, and the items between
them that a reader passes over. Writing uses given lengths. Reading also takes strings
in segments up to a break, skips tags before an item, and takes an array of small
numbers for a byte string.
-/

namespace ByteLedger.Cbor

/-- A text. -/
def textItem (s : String) : Bytes :=
  headBytes 3 (Utf8.encode s).length ++ Utf8.encode s

/-- A byte string. -/
def bytesItem (bs : Bytes) : Bytes := headBytes 2 bs.length ++ bs

/-- The null. -/
def nullItem : Bytes := [initialByte 7 simpleNull]

/-- An item, or null. -/
def optionItem {α : Type} (item : α → Bytes) : Option α → Bytes
  | some x => item x
  | none => nullItem

/-! ## Strings -/

/-- The two kinds of string. -/
inductive StringKind where
  | bytes
  | text
  deriving DecidableEq, Repr, Inhabited

/-- The length in a head of a string of the given kind. -/
def StringKind.length? : StringKind → Head → Option (Option Nat)
  | .bytes, .bytes n => some n
  | .text, .text n => some n
  | _, _ => none

/-- One segment of a string: any bytes, but well-formed text if the string is a text. -/
def readSegment (kind : StringKind) (n : Nat) : Reader Bytes := do
  let bs ← readBytes n
  match kind with
  | .bytes => return bs
  | .text => if (Utf8.decode? bs).isSome then return bs else fail .illFormedText

/-- The segments of a string up to its break. Strings without a given length can stand
inside each other, and `depth` counts those that are still open around this one. -/
def readSegments (kind : StringKind) : (fuel depth : Nat) → Reader Bytes
  | 0, _ => fail .truncated
  | fuel + 1, depth => do
    match ← readHead with
    | .stop =>
      match depth with
      | 0 => return []
      | outer + 1 => readSegments kind fuel outer
    | h =>
      match kind.length? h with
      | none => fail .unexpected
      | some none => readSegments kind fuel (depth + 1)
      | some (some n) =>
        let front ← readSegment kind n
        let rest ← readSegments kind fuel depth
        return front ++ rest

/-- What follows the head of a string. -/
def readString (kind : StringKind) : Option Nat → Reader Bytes
  | some n => readSegment kind n
  | none => fun bs => readSegments kind (bs.length + 1) 0 bs

/-- A text, after tags. -/
def readText : Reader String := do
  match ← readUntagged with
  | .text n =>
    let bs ← readString .text n
    match Utf8.decode? bs with
    | some s => return s
    | none => fail .illFormedText
  | _ => fail .unexpected

/-- The number of the tag before the bytes of a great number. -/
def greatNumberTag : Nat := 2

/-- The number of the tag before the bytes of a great negative number. -/
def greatNegativeTag : Nat := 3

/-- A number below 256, after tags. It can be written as a great number, whose bytes may
begin with zeros. A great negative number is out of range whatever its bytes are. -/
def readSmall : (fuel : Nat) → Reader UInt8
  | 0 => fail .truncated
  | fuel + 1 => do
    match ← readHead with
    | .unsigned n => if n < 256 then return UInt8.ofNat n else fail .outOfRange
    | .tag t =>
      if t = greatNumberTag then
        match ← readHead with
        | .bytes n =>
          let value := ofBigEndian (← readString .bytes n)
          if value < 256 then return UInt8.ofNat value else fail .outOfRange
        | _ => fail .unexpected
      else if t = greatNegativeTag then fail .outOfRange
      else readSmall fuel
    | _ => fail .unexpected

/-- The small numbers of an array, of which `count` are left, or as many as there are
before the break. -/
def readSmalls : (fuel : Nat) → (count : Option Nat) → Reader Bytes
  | _, some 0 => return []
  | 0, _ => fail .truncated
  | fuel + 1, some (count + 1) => do
    let b ← fun bs => readSmall (bs.length + 1) bs
    let rest ← readSmalls fuel (some count)
    return b :: rest
  | fuel + 1, none => do
    if ← readStop then return []
    else
      let b ← fun bs => readSmall (bs.length + 1) bs
      let rest ← readSmalls fuel none
      return b :: rest

/-- A byte string, after tags. -/
def readByteString : Reader Bytes := do
  match ← readUntagged with
  | .bytes n => readString .bytes n
  | .array n => fun bs => readSmalls (bs.length + 1) n bs
  | _ => fail .unexpected

/-- Whether the next item is null or undefined; if it is, it is read. -/
def readNull : Reader Bool := fun bs =>
  match readHead bs with
  | .error e => .error e
  | .ok (.simple n, rest) =>
    if n = simpleNull ∨ n = simpleUndefined then .ok (true, rest) else .ok (false, bs)
  | .ok _ => .ok (false, bs)

/-- An item that can be missing. -/
def readOption {α : Type} (item : Reader α) : Reader (Option α) := do
  if ← readNull then return none else some <$> item

/-! ## Passing over an item -/

/-- How deep items may be nested. -/
def depthLimit : Nat := 256

mutual

/-- Passes over one item, which may hold items nested up to `depth`. -/
def skipItem : (fuel depth : Nat) → Reader Unit
  | 0, _ => fail .truncated
  | fuel + 1, depth => do
    match ← readHead with
    | .unsigned _ | .negative _ | .float => return ()
    | .bytes n => let _ ← readString .bytes n
    | .text n => let _ ← readString .text n
    | .array n =>
      match depth with
      | 0 => fail .tooDeep
      | inner + 1 => skipItems fuel inner n
    | .map n =>
      match depth with
      | 0 => fail .tooDeep
      | inner + 1 => skipPairs fuel inner n
    | .tag _ => skipItem fuel depth
    | .simple n => if 20 ≤ n ∧ n ≤ 23 then return () else fail .unexpected
    | .stop => fail .unexpected

/-- Passes over the items of an array. -/
def skipItems : (fuel depth : Nat) → (count : Option Nat) → Reader Unit
  | _, _, some 0 => return ()
  | 0, _, _ => fail .truncated
  | fuel + 1, depth, some (count + 1) => do
    skipItem fuel depth
    skipItems fuel depth (some count)
  | fuel + 1, depth, none => do
    if ← readStop then return ()
    else
      skipItem fuel depth
      skipItems fuel depth none

/-- Passes over the pairs of a map. -/
def skipPairs : (fuel depth : Nat) → (count : Option Nat) → Reader Unit
  | _, _, some 0 => return ()
  | 0, _, _ => fail .truncated
  | fuel + 1, depth, some (count + 1) => do
    skipItem fuel depth
    skipItem fuel depth
    skipPairs fuel depth (some count)
  | fuel + 1, depth, none => do
    if ← readStop then return ()
    else
      skipItem fuel depth
      skipItem fuel depth
      skipPairs fuel depth none

end

/-- Passes over an item nested up to `depth`. Each step takes at least one byte or is
followed by one that does, so twice the length of the input bounds the steps. -/
def skip (depth : Nat) : Reader Unit := fun bs => skipItem (2 * bs.length + 2) depth bs

/-! ## Records -/

/-- The greatest length of a field name. -/
def nameLimit : Nat := 4096

/-- The name of a field, after tags: a text or a byte string of given length. -/
def readName : Reader Bytes := do
  match ← readUntagged with
  | .text (some n) => if n ≤ nameLimit then readSegment .text n else fail .unexpected
  | .bytes (some n) => if n ≤ nameLimit then readSegment .bytes n else fail .unexpected
  | _ => fail .unexpected

/-- The fields of a record, of which `count` are left, or as many as there are before
the break. `field` reads the value of the field with the given name into what was read
so far. -/
def readFields {α : Type} (field : Bytes → α → Reader α) :
    (fuel : Nat) → (count : Option Nat) → α → Reader α
  | _, some 0, acc => return acc
  | 0, _, _ => fail .truncated
  | fuel + 1, some (count + 1), acc => do
    let name ← readName
    let acc ← field name acc
    readFields field fuel (some count) acc
  | fuel + 1, none, acc => do
    if ← readStop then return acc
    else
      let name ← readName
      let acc ← field name acc
      readFields field fuel none acc

/-- What follows the head of a record with the given number of fields. -/
def readFieldsOf {α : Type} (field : Bytes → α → Reader α) (count : Option Nat) (acc : α) :
    Reader α :=
  fun bs => readFields field (bs.length + 1) count acc bs

/-- A field that was not read before. -/
def readOnce {α : Type} (item : Reader α) : Option α → Reader (Option α)
  | none => some <$> item
  | some _ => fail .repeatedField

/-- A field that has to be there. -/
def require {α : Type} : Option α → Reader α
  | some x => return x
  | none => fail .missingField

end ByteLedger.Cbor
