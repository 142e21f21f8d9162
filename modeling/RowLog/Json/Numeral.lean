import RowLog.Decimal.Binary64

/-!
# Numerals

A numeral is kept as it was written: sign, digits before and after the point, exponent. It denotes
an integer if it has neither fraction nor exponent, is no negative zero and fits 64 bits; every
numeral that is not too large denotes a floating-point number as well.

The floating-point value is taken from the leading digits that together fit 64 bits. The digits
before the point that do not fit count as zeros, those after it are dropped, and the result is
scaled by one multiplication or division for every 308 places.
-/

namespace RowLog.Json

/-- A number as written. -/
structure Numeral where
  negative : Bool
  whole : List Nat
  /-- The digits after the point; none if there is no point. -/
  fraction : List Nat
  /-- The exponent, if one is written. -/
  exponent : Option Int
  deriving DecidableEq

/-- The number that a list of digits denotes after the digits of `start`. -/
def digitsValue (start : Nat) (digits : List Nat) : Nat :=
  digits.foldl (fun value digit => value * 10 + digit) start

/-- Appends digits to a number while it stays below `2 ^ 64`; returns it with the digits left. -/
def appendFitting (start : Nat) : List Nat → Nat × List Nat
  | [] => (start, [])
  | digit :: rest =>
      if start * 10 + digit < 0x10000000000000000 then appendFitting (start * 10 + digit) rest
      else (start, digit :: rest)

/-- A machine float divided by a power of ten, 308 places at a time. -/
def divideByPower (value : Float) (places : Nat) : Float :=
  if places ≤ 308 then value / Float.ofScientific 1 false places
  else if value == 0 then value
  else divideByPower (value / Float.ofScientific 1 false 308) (places - 308)
termination_by places

/-- A machine float scaled by a power of ten; `none` if the result is too large. -/
def scaleByPower (value : Float) (exponent : Int) : Option Float :=
  if exponent < 0 then some (divideByPower value exponent.natAbs)
  else if exponent ≤ 308 then
    let scaled := value * Float.ofScientific 1 false exponent.natAbs
    if scaled.isInf then none else some scaled
  else if value == 0 then some value
  else none

namespace Numeral

/-- The integer that a numeral denotes, if it is written as one and has a place among the signed
or the unsigned integers of 64 bits. -/
def integer? (numeral : Numeral) : Option Int :=
  if numeral.fraction != [] || numeral.exponent.isSome then none
  else
    let magnitude := digitsValue 0 numeral.whole
    if !numeral.negative then
      if magnitude < 0x10000000000000000 then some magnitude else none
    else if magnitude != 0 && magnitude ≤ 0x8000000000000000 then some (-magnitude)
    else none

/-- The floating-point number that a numeral denotes; `none` if it is too large for one. -/
def binary64? (numeral : Numeral) : Option Binary64 := do
  let (leading, uncounted) := appendFitting 0 numeral.whole
  let (significand, dropped) := appendFitting leading numeral.fraction
  let places : Int := uncounted.length - (numeral.fraction.length - dropped.length)
  let magnitude ← scaleByPower significand.toUInt64.toFloat
    (places + numeral.exponent.getD 0)
  Binary64.ofFloat? (if numeral.negative then -magnitude else magnitude)

def ofInt (value : Int) : Numeral :=
  { negative := value < 0
    whole := (Nat.toDigits 10 value.natAbs).map fun digit => digit.toNat - '0'.toNat
    fraction := []
    exponent := none }

end Numeral

end RowLog.Json
