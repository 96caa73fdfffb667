import ByteLedger.Json.Basic

set_option autoImplicit false

/-!
# Written JSON

Values are written compactly, without a blank, or over several lines with an indent of
two blanks for each level. In strings the quote, the backslash and the control
characters below the blank are escaped, the latter by a letter where JSON has one and
else by four lower-case hexadecimal digits; all other characters stand for themselves.
-/

namespace ByteLedger.Json

/-- A hexadecimal digit, in lower case. -/
def hexDigit (n : Nat) : Char := Nat.digitChar (n % 16)

/-- The escape of a UTF-16 unit. -/
def unitEscape (n : Nat) : List Char :=
  ['\\', 'u', hexDigit (n / 4096), hexDigit (n / 256), hexDigit (n / 16), hexDigit n]

/-- One character inside a written string. -/
def escapeChar (c : Char) : List Char :=
  match c with
  | '"' => ['\\', '"']
  | '\\' => ['\\', '\\']
  | '\x08' => ['\\', 'b']
  | '\x0c' => ['\\', 'f']
  | '\n' => ['\\', 'n']
  | '\r' => ['\\', 'r']
  | '\t' => ['\\', 't']
  | c => if c.toNat < 32 then unitEscape c.toNat else [c]

/-- One element inside a written string. -/
def escapeElement : Element → List Char
  | .char c => escapeChar c
  | .surrogate u => unitEscape u.toNat

/-- A written string. -/
def quote (elements : List Element) : List Char :=
  '"' :: (elements.flatMap escapeElement ++ ['"'])

mutual

/-- A value without blanks. -/
def compactChars : Json → List Char
  | .null => "null".toList
  | .bool true => "true".toList
  | .bool false => "false".toList
  | .number literal => literal
  | .string elements => quote elements
  | .array items => '[' :: (compactItems items ++ [']'])
  | .object members => '{' :: (compactMembers members ++ ['}'])

/-- The items of an array, between commas. -/
def compactItems : List Json → List Char
  | [] => []
  | [v] => compactChars v
  | v :: w :: rest => compactChars v ++ ',' :: compactItems (w :: rest)

/-- The members of an object, between commas. -/
def compactMembers : List (List Element × Json) → List Char
  | [] => []
  | [(name, v)] => quote name ++ ':' :: compactChars v
  | (name, v) :: m :: rest =>
    quote name ++ ':' :: (compactChars v ++ ',' :: compactMembers (m :: rest))

end

/-- A line break and the indent of a level. -/
def newline (level : Nat) : List Char := '\n' :: List.replicate (2 * level) ' '

mutual

/-- A value over several lines, its first line at the given level. -/
def prettyChars (level : Nat) : Json → List Char
  | .null => "null".toList
  | .bool true => "true".toList
  | .bool false => "false".toList
  | .number literal => literal
  | .string elements => quote elements
  | .array [] => "[]".toList
  | .array (v :: rest) =>
    '[' :: (prettyItems (level + 1) (v :: rest) ++ newline level ++ [']'])
  | .object [] => ['{', '}']
  | .object (m :: rest) =>
    '{' :: (prettyMembers (level + 1) (m :: rest) ++ newline level ++ ['}'])

/-- The items of an array, each on a line of its own. -/
def prettyItems (level : Nat) : List Json → List Char
  | [] => []
  | [v] => newline level ++ prettyChars level v
  | v :: w :: rest =>
    newline level ++ prettyChars level v ++ ',' :: prettyItems level (w :: rest)

/-- The members of an object, each on a line of its own. -/
def prettyMembers (level : Nat) : List (List Element × Json) → List Char
  | [] => []
  | [(name, v)] => newline level ++ quote name ++ ':' :: ' ' :: prettyChars level v
  | (name, v) :: m :: rest =>
    newline level ++ quote name ++ ':' :: ' ' :: (prettyChars level v
      ++ ',' :: prettyMembers level (m :: rest))

end

/-- A value as text, without blanks. -/
def compact (v : Json) : String := String.ofList (compactChars v)

/-- A value as text, over several lines. -/
def pretty (v : Json) : String := String.ofList (prettyChars 0 v)

end ByteLedger.Json
