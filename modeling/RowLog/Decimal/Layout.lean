import RowLog.Decimal.Shortest

/-!
# How a number is written

A `DecimalLayout` says for which magnitudes a number is written plainly and for which it is written
with an exponent, and whether a whole number keeps a fraction. Two layouts are used: `jsonLayout`
for numbers in documents and `plainLayout` for numbers in row keys.
-/

namespace RowLog

/-- The choices in the written form of a number. -/
structure DecimalLayout where
  tie : TieRule
  /-- A magnitude with `n` places before its first nonzero digit, or `-n` digits before its point,
  is written plainly if `n` lies in this range. -/
  isPlain : Int → Bool
  /-- Whether a plainly written whole number ends in a zero fraction. -/
  keepsFraction : Bool

/-- Numbers in documents are plain from `0.00001` to below `10 ^ 16` and always show a fraction;
other magnitudes have an exponent with its sign. -/
def jsonLayout : DecimalLayout :=
  ⟨.toEven, fun point => -5 < point && point ≤ 16, true⟩

/-- Numbers in row keys never have an exponent, and whole ones no fraction. -/
def plainLayout : DecimalLayout :=
  ⟨.away, fun _ => true, false⟩

namespace DecimalLayout

/-- A decimal without an exponent, where `digits` are those of its significand. -/
def plain (layout : DecimalLayout) (digits : List Char) (exponent : Int) : List Char :=
  let point := digits.length + exponent
  if 0 ≤ exponent then
    digits ++ List.replicate exponent.toNat '0' ++ if layout.keepsFraction then ['.', '0'] else []
  else if 0 < point then
    digits.take point.toNat ++ '.' :: digits.drop point.toNat
  else
    '0' :: '.' :: List.replicate (-point).toNat '0' ++ digits

/-- A decimal with an exponent: one digit stands before the point. -/
def scientific (digits : List Char) (exponent : Int) : List Char :=
  let power := digits.length + exponent - 1
  digits.take 1 ++ (if digits.length == 1 then [] else '.' :: digits.drop 1) ++
    ['e', if power < 0 then '-' else '+'] ++ Nat.toDigits 10 power.natAbs

def write (layout : DecimalLayout) (number : Binary64) : List Char :=
  let sign := if number.isNegative then ['-'] else []
  if number.significand == 0 then
    sign ++ if layout.keepsFraction then ['0', '.', '0'] else ['0']
  else
    let decimal := ShortDecimal.ofNumber layout.tie number
    let digits := Nat.toDigits 10 decimal.significand
    sign ++
      if layout.isPlain (digits.length + decimal.exponent) then
        layout.plain digits decimal.exponent
      else scientific digits decimal.exponent

end DecimalLayout

end RowLog
