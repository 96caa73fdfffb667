import ByteLedger.Json.Basic

set_option autoImplicit false

/-!
# Reading JSON

A reader takes a value off the front of a list of characters and gives back the rest.
Each call of a reader on what follows takes at least one character before it, so the
length of the text bounds the depth of the calls; `parse?` starts with that bound and
asks that nothing but blanks is left.

Inside a string an escaped surrogate is joined with its partner if that follows at once,
and kept as it is otherwise.
-/

namespace ByteLedger.Json

/-- The four blanks of JSON. -/
def isBlank (c : Char) : Bool := c == ' ' || c == '\n' || c == '\t' || c == '\r'

/-- What follows the blanks. -/
def skipBlanks (cs : List Char) : List Char := cs.dropWhile isBlank

/-- The value of a hexadecimal digit of either case. -/
def hexValue? (c : Char) : Option Nat :=
  if c.isDigit then some (c.toNat - 48)
  else if 'a' ≤ c ∧ c ≤ 'f' then some (c.toNat - 87)
  else if 'A' ≤ c ∧ c ≤ 'F' then some (c.toNat - 55)
  else none

/-- The UTF-16 unit that four hexadecimal digits denote, and what follows them. -/
def readUnit? : List Char → Option (Nat × List Char)
  | a :: b :: c :: d :: rest =>
    match hexValue? a, hexValue? b, hexValue? c, hexValue? d with
    | some a, some b, some c, some d => some (((a * 16 + b) * 16 + c) * 16 + d, rest)
    | _, _, _, _ => none
  | _ => none

/-- A unit that begins a pair. -/
def isLeading (u : Nat) : Bool := 0xD800 ≤ u && u < 0xDC00

/-- A unit that ends a pair. -/
def isTrailing (u : Nat) : Bool := 0xDC00 ≤ u && u < 0xE000

/-- The character that a pair of units denotes. -/
def joinUnits (lead trail : Nat) : Char :=
  Char.ofNat (0x10000 + (lead - 0xD800) * 0x400 + (trail - 0xDC00))

/-- The unit escaped at the front of the text, if it ends a pair. -/
def trailingEscape? : List Char → Option (Nat × List Char)
  | '\\' :: 'u' :: rest =>
    match readUnit? rest with
    | some (u, rest) => if isTrailing u then some (u, rest) else none
    | none => none
  | _ => none

/-- The element whose escape follows a backslash. -/
def readEscape? : List Char → Option (Element × List Char)
  | '"' :: rest => some (.char '"', rest)
  | '\\' :: rest => some (.char '\\', rest)
  | '/' :: rest => some (.char '/', rest)
  | 'b' :: rest => some (.char '\x08', rest)
  | 'f' :: rest => some (.char '\x0c', rest)
  | 'n' :: rest => some (.char '\n', rest)
  | 'r' :: rest => some (.char '\r', rest)
  | 't' :: rest => some (.char '\t', rest)
  | 'u' :: rest =>
    match readUnit? rest with
    | none => none
    | some (u, rest) =>
      if isLeading u then
        match trailingEscape? rest with
        | some (v, rest) => some (.char (joinUnits u v), rest)
        | none => some (.surrogate (UInt16.ofNat u), rest)
      else if isTrailing u then some (.surrogate (UInt16.ofNat u), rest)
      else some (.char (Char.ofNat u), rest)
  | _ => none

/-- The elements of a string up to its closing quote, and what follows that. The first
argument bounds the number of elements. -/
def readElements? : Nat → List Char → Option (List Element × List Char)
  | 0, _ => none
  | _ + 1, [] => none
  | _ + 1, '"' :: rest => some ([], rest)
  | fuel + 1, '\\' :: rest =>
    match readEscape? rest with
    | none => none
    | some (e, rest) =>
      match readElements? fuel rest with
      | some (es, rest) => some (e :: es, rest)
      | none => none
  | fuel + 1, c :: rest =>
    if c.toNat < 32 then none
    else
      match readElements? fuel rest with
      | some (es, rest) => some (.char c :: es, rest)
      | none => none

/-- A character that can stand in a number. -/
def isNumberChar (c : Char) : Bool :=
  c.isDigit || c == '-' || c == '+' || c == '.' || c == 'e' || c == 'E'

/-- Nothing, or an exponent: a letter, an optional sign and digits. -/
def isExponent : List Char → Bool
  | [] => true
  | c :: rest =>
    (c == 'e' || c == 'E') &&
      (let digits := match rest with
        | '+' :: r => r
        | '-' :: r => r
        | r => r
      !digits.isEmpty && digits.all Char.isDigit)

/-- Nothing, or a fraction and an exponent, of which each may be missing. -/
def isFraction : List Char → Bool
  | '.' :: rest =>
    !(rest.takeWhile Char.isDigit).isEmpty && isExponent (rest.dropWhile Char.isDigit)
  | cs => isExponent cs

/-- A number without its sign: zero or digits that do not begin with zero, and a
fraction. -/
def isUnsignedNumber : List Char → Bool
  | '0' :: rest => isFraction rest
  | c :: rest => c.isDigit && isFraction (rest.dropWhile Char.isDigit)
  | [] => false

/-- A number literal. -/
def isNumber : List Char → Bool
  | '-' :: rest => isUnsignedNumber rest
  | cs => isUnsignedNumber cs

/-- What follows `word` at the front of a text. -/
def dropWord? (word : String) (cs : List Char) : Option (List Char) :=
  if word.toList.isPrefixOf cs then some (cs.drop word.length) else none

/-- A value that is neither a string nor a container: a word of the language or a
number. -/
def readScalar? (cs : List Char) : Option (Json × List Char) :=
  match dropWord? "null" cs, dropWord? "true" cs, dropWord? "false" cs with
  | some rest, _, _ => some (.null, rest)
  | _, some rest, _ => some (.bool true, rest)
  | _, _, some rest => some (.bool false, rest)
  | none, none, none =>
    let literal := cs.takeWhile isNumberChar
    if isNumber literal then some (.number literal, cs.dropWhile isNumberChar) else none

mutual

/-- The value at the front of a text, after blanks. -/
def readValue? : Nat → List Char → Option (Json × List Char)
  | 0, _ => none
  | fuel + 1, cs =>
    match skipBlanks cs with
    | '"' :: rest =>
      match readElements? fuel rest with
      | some (es, rest) => some (.string es, rest)
      | none => none
    | '[' :: rest =>
      match skipBlanks rest with
      | ']' :: rest => some (.array [], rest)
      | rest =>
        match readItems? fuel rest with
        | some (vs, rest) => some (.array vs, rest)
        | none => none
    | '{' :: rest =>
      match skipBlanks rest with
      | '}' :: rest => some (.object [], rest)
      | rest =>
        match readMembers? fuel rest with
        | some (ms, rest) => some (.object ms, rest)
        | none => none
    | rest => readScalar? rest

/-- One or more values between commas, up to the closing bracket. -/
def readItems? : Nat → List Char → Option (List Json × List Char)
  | 0, _ => none
  | fuel + 1, cs =>
    match readValue? fuel cs with
    | none => none
    | some (v, rest) =>
      match skipBlanks rest with
      | ']' :: rest => some ([v], rest)
      | ',' :: rest =>
        match readItems? fuel rest with
        | some (vs, rest) => some (v :: vs, rest)
        | none => none
      | _ => none

/-- One or more members between commas, up to the closing brace. -/
def readMembers? : Nat → List Char → Option (List (List Element × Json) × List Char)
  | 0, _ => none
  | fuel + 1, cs =>
    match skipBlanks cs with
    | '"' :: rest =>
      match readElements? fuel rest with
      | none => none
      | some (name, rest) =>
        match skipBlanks rest with
        | ':' :: rest =>
          match readValue? fuel rest with
          | none => none
          | some (v, rest) =>
            match skipBlanks rest with
            | '}' :: rest => some ([(name, v)], rest)
            | ',' :: rest =>
              match readMembers? fuel rest with
              | some (ms, rest) => some ((name, v) :: ms, rest)
              | none => none
            | _ => none
        | _ => none
    | _ => none

end

/-- The value that a text denotes. -/
def parse? (s : String) : Option Json :=
  let cs := s.toList
  match readValue? (2 * cs.length + 2) cs with
  | some (v, rest) => if (skipBlanks rest).isEmpty then some v else none
  | none => none

end ByteLedger.Json
