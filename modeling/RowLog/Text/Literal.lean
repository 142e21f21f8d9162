import RowLog.Text.Printable

/-!
# Text shown as a literal

How a piece of input is shown inside a message: between quotes, on one line, with every character
visible. A quote, a backslash and the common controls are written by a short escape; any other
character that does not show on its own is written by its code, as in `\u{200b}`.
-/

namespace RowLog.Literal

/-- The digits of a number to the base 16, in lower case. -/
def hexadecimal (number : Nat) : List Char :=
  Nat.toDigits 16 number

/-- A character as it stands in a literal that ends at `quote`. -/
def escape (quote : Char) (character : Char) : List Char :=
  if character == quote || character == '\\' then ['\\', character]
  else if character == '\t' then ['\\', 't']
  else if character == '\r' then ['\\', 'r']
  else if character == '\n' then ['\\', 'n']
  else if character == '\x00' then ['\\', '0']
  else if isPrintable character && !isExtending character then [character]
  else ['\\', 'u', '\x7b'] ++ hexadecimal character.toNat ++ ['\x7d']

def ofString (text : String) : String :=
  String.ofList ('"' :: text.toList.flatMap (escape '"') ++ ['"'])

def ofChar (character : Char) : String :=
  String.ofList ('\'' :: escape '\'' character ++ ['\''])

end RowLog.Literal
