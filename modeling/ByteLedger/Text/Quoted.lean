import ByteLedger.Text.Extending
import ByteLedger.Text.Graphic

set_option autoImplicit false

/-!
# Quoted text

A text is shown between quotes so that every character of it can be seen. Quotes and
backslashes are escaped, the tab, the line break, the carriage return and the null have
an escape of one letter or digit, and every character that is not graphic, or would be
drawn as a part of the quote before it, is given by its code point.
-/

namespace ByteLedger.Quoted

/-- The escape of a character by its code point, in lower-case hexadecimal. -/
def codePointEscape (c : Char) : List Char :=
  ['\\', 'u', '{'] ++ Nat.toDigits 16 c.toNat ++ ['}']

/-- One character between the quotes. -/
def escapeChar (c : Char) : List Char :=
  match c with
  | '\x00' => ['\\', '0']
  | '\t' => ['\\', 't']
  | '\n' => ['\\', 'n']
  | '\r' => ['\\', 'r']
  | '"' => ['\\', '"']
  | '\\' => ['\\', '\\']
  | c =>
    if Extending.isExtending c || !Graphic.isGraphic c then codePointEscape c else [c]

/-- A text between quotes. -/
def text (s : String) : String :=
  String.ofList ('"' :: (s.toList.flatMap escapeChar ++ ['"']))

end ByteLedger.Quoted
