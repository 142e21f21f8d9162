import RowLog.Text.Blank

/-!
# Decimal literals in one spelling

The same decimal may be written with a plus sign, with zeros at either end, without digits on one
side of the point, or between blanks. `canonicalDecimal` removes these differences.
-/

namespace RowLog

/-- The sign of a literal, true for a minus, and what follows it. -/
def splitSign : List Char → Bool × List Char
  | '-' :: rest => (true, rest)
  | '+' :: rest => (false, rest)
  | digits => (false, digits)

/-- A decimal from its parts: zeros that do not count are dropped, and zero has no sign. -/
def decimalOfParts (negative : Bool) (whole fraction : List Char) : List Char :=
  let whole := whole.dropWhile (· == '0')
  let fraction := (fraction.reverse.dropWhile (· == '0')).reverse
  let sign := if negative && !(whole.isEmpty && fraction.isEmpty) then ['-'] else []
  sign ++ (if whole.isEmpty then ['0'] else whole) ++
    if fraction.isEmpty then [] else '.' :: fraction

def canonicalDecimal (literal : List Char) : List Char :=
  let (negative, digits) := splitSign (trimBlanks literal)
  decimalOfParts negative (digits.takeWhile (· != '.')) ((digits.dropWhile (· != '.')).drop 1)

end RowLog
