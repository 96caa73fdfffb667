import ByteLedger.Text.Decimal

set_option autoImplicit false

/-!
# JSON values

Numbers are kept as their literals, so that a word of 64 bits is never read through a
float, and the members of an object are kept in order and with repetitions, so that a
reader of records can refuse a repeated field. A JSON string is a sequence of
characters and of escaped surrogates that stand alone; only a string without the
latter denotes a text.
-/

namespace ByteLedger

/-- One element of a JSON string. -/
inductive Json.Element where
  | char (c : Char)
  /-- An escaped surrogate without its partner. -/
  | surrogate (unit : UInt16)
  deriving DecidableEq, Repr, Inhabited

/-- A JSON value. -/
inductive Json where
  | null
  | bool (b : Bool)
  | number (literal : List Char)
  | string (elements : List Json.Element)
  | array (items : List Json)
  | object (members : List (List Json.Element × Json))
  deriving Repr, Inhabited

namespace Json

/-- The elements of a text. -/
def ofChars (cs : List Char) : List Element := cs.map .char

/-- The characters of a string, if no surrogate stands alone in it. -/
def chars? : List Element → Option (List Char)
  | [] => some []
  | .char c :: rest => (chars? rest).map (c :: ·)
  | .surrogate _ :: _ => none

theorem chars?_ofChars (cs : List Char) : chars? (ofChars cs) = some cs := by
  induction cs with
  | nil => rfl
  | cons c cs ih => simpa [ofChars, chars?] using ih

/-- The value that holds a text. -/
def ofText (s : String) : Json := .string (ofChars s.toList)

/-- The value that holds a word. -/
def ofWord (n : UInt64) : Json := .number (Decimal.text n).toList

/-- The text that a value holds. -/
def text? : Json → Option String
  | .string elements => (chars? elements).map String.ofList
  | _ => none

/-- The word that a value holds: a literal of digits alone, below `2^64`. -/
def word? : Json → Option UInt64
  | .number literal =>
    match Decimal.natural? literal with
    | some n => if n < 2 ^ 64 then some (UInt64.ofNat n) else none
    | none => none
  | _ => none

/-- The truth value that a value holds. -/
def bool? : Json → Option Bool
  | .bool b => some b
  | _ => none

/-- The items of an array. -/
def items? : Json → Option (List Json)
  | .array items => some items
  | _ => none

theorem text?_ofText (s : String) : (ofText s).text? = some s := by
  simp [ofText, text?, chars?_ofChars]

theorem word?_ofWord (n : UInt64) : (ofWord n).word? = some n := by
  simp [ofWord, word?, Decimal.toList_text, Decimal.natural?_toDigits, n.toNat_lt_size]

end Json

end ByteLedger
