import ByteLedger.Cbor.Reader

set_option autoImplicit false

/-!
# Item heads

Each CBOR item begins with a head: a major type of three bits and an argument. The
argument is below 24 and stands in the head's first byte, or it follows in one, two,
four or eight bytes. Heads are written in the shortest form, and read in any.
-/

namespace ByteLedger.Cbor

/-- The head of an item. A length that is not given is found by the break that ends
the item. -/
inductive Head where
  | unsigned (n : Nat)
  | negative (n : Nat)
  | bytes (length : Option Nat)
  | text (length : Option Nat)
  | array (length : Option Nat)
  | map (length : Option Nat)
  | tag (n : Nat)
  | simple (n : Nat)
  | float
  /-- The break that ends an item without a given length. -/
  | stop
  deriving DecidableEq, Repr, Inhabited

/-- The number of the simple value null. -/
def simpleNull : Nat := 22

/-- The number of the simple value undefined. -/
def simpleUndefined : Nat := 23

/-- The first byte of a head. -/
def initialByte (major minor : Nat) : UInt8 := UInt8.ofNat (major * 32 + minor)

/-- The shortest head of a major type with the given argument. -/
def headBytes (major n : Nat) : Bytes :=
  if n < 24 then [initialByte major n]
  else if n < 2 ^ 8 then initialByte major 24 :: bigEndian 1 n
  else if n < 2 ^ 16 then initialByte major 25 :: bigEndian 2 n
  else if n < 2 ^ 32 then initialByte major 26 :: bigEndian 4 n
  else initialByte major 27 :: bigEndian 8 n

/-- The argument of a head whose first byte has the given lower bits; none where they
say that no length is given. -/
def readArgument (minor : Nat) : Reader (Option Nat) :=
  if minor < 24 then return some minor
  else if minor = 24 then some <$> readNumber 1
  else if minor = 25 then some <$> readNumber 2
  else if minor = 26 then some <$> readNumber 4
  else if minor = 27 then some <$> readNumber 8
  else if minor = 31 then return none
  else fail .reserved

/-- An argument that has to be given. -/
def readGiven (minor : Nat) : Reader Nat := do
  match ← readArgument minor with
  | some n => return n
  | none => fail .reserved

/-- The head of a simple value, of a float or of a break. -/
def readSimpleHead (minor : Nat) : Reader Head := do
  match ← readArgument minor with
  | none => return .stop
  | some n => return if minor ≤ 24 then .simple n else .float

/-- The head at the front of the input. -/
def readHead : Reader Head := do
  let b ← readByte
  let minor := b.toNat % 32
  match b.toNat / 32 with
  | 0 => .unsigned <$> readGiven minor
  | 1 => .negative <$> readGiven minor
  | 2 => .bytes <$> readArgument minor
  | 3 => .text <$> readArgument minor
  | 4 => .array <$> readArgument minor
  | 5 => .map <$> readArgument minor
  | 6 => .tag <$> readGiven minor
  | _ => readSimpleHead minor

/-- The first head that is no tag. The first argument bounds the number of tags. -/
def readHeadPastTags : Nat → Reader Head
  | 0 => fail .truncated
  | fuel + 1 => do
    match ← readHead with
    | .tag _ => readHeadPastTags fuel
    | h => return h

/-- The first head that is no tag. Each tag has at least one byte, so the length of the
input bounds their number. -/
def readUntagged : Reader Head := fun bs => readHeadPastTags (bs.length + 1) bs

/-- Reads the break that ends an item, if it comes next. -/
def readStop : Reader Bool := readIf 0xff

end ByteLedger.Cbor
