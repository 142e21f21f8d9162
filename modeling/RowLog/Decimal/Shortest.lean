import RowLog.Decimal.Binary64

/-!
# The shortest decimal that reads back

Every finite binary number is the nearest one to all reals of a small interval around it. The
decimal chosen for it has the fewest digits of those in that interval, and of these it is the
nearest to the number itself. Two decimals of one length at the same distance are told apart by a
`TieRule`.

Magnitudes are counted in units of `10 ^ -1076`: this makes every number, and both ends of its
interval, a whole number of units, so that all comparisons are exact.
-/

namespace RowLog

/-- Which of two equally near decimals is chosen. -/
inductive TieRule
  /-- The one whose last digit is even. -/
  | toEven
  | away
  deriving DecidableEq

/-- A positive decimal: `significand * 10 ^ exponent`. -/
structure ShortDecimal where
  significand : Nat
  exponent : Int
  deriving DecidableEq

/-- The reals that read back as one number, by the ends of their interval in units. -/
structure RoundingInterval where
  lower : Nat
  value : Nat
  upper : Nat
  closed : Bool
  deriving DecidableEq

namespace RoundingInterval

def unitPlaces : Nat := 1076

/-- The interval of a number. Its ends lie half way to the neighbours, and belong to it if the
significand is even. -/
def ofNumber (number : Binary64) : RoundingInterval :=
  let quarter := Nat.pow 2 number.scale * Nat.pow 5 unitPlaces
  let quarters := 4 * number.significand
  { lower := (quarters - if number.isCloserBelow then 1 else 2) * quarter
    value := quarters * quarter
    upper := (quarters + 2) * quarter
    closed := number.significand % 2 == 0 }

def contains (interval : RoundingInterval) (units : Nat) : Bool :=
  if interval.closed then interval.lower ≤ units && units ≤ interval.upper
  else interval.lower < units && units < interval.upper

/-- The multiple of `step` that is chosen for the interval, if any multiple lies in it next to the
number. -/
def multiple? (interval : RoundingInterval) (tie : TieRule) (step : Nat) : Option Nat :=
  let count := interval.value / step
  let below := count * step
  let above := below + step
  let choice :=
    if interval.value - below < above - interval.value then below
    else if above - interval.value < interval.value - below then above
    else match tie with
      | .toEven => if count % 2 == 0 then below else above
      | .away => above
  match interval.contains below, interval.contains above with
  | true, true => some choice
  | true, false => some below
  | false, true => some above
  | false, false => none

def digitCount (units : Nat) : Nat :=
  (Nat.toDigits 10 units).length

/-- The multiple chosen on the coarsest of the grids that have one, of those from the given number
of digits on. The grid of single units has the number itself. -/
def search (interval : RoundingInterval) (tie : TieRule) : Nat → Nat
  | 0 => interval.value
  | places + 1 =>
      (interval.multiple? tie (Nat.pow 10 (places + 1))).getD (interval.search tie places)

/-- The chosen decimal, in units. -/
def shortestUnits (interval : RoundingInterval) (tie : TieRule) : Nat :=
  interval.search tie (digitCount interval.value - 1)

end RoundingInterval

namespace ShortDecimal

/-- The decimal without trailing zeros that is worth the given number of units; `places` bounds the
zeros that are dropped. -/
def ofUnits (units : Nat) : (places : Nat) → ShortDecimal
  | 0 => ⟨units, -RoundingInterval.unitPlaces⟩
  | places + 1 =>
      if units % 10 == 0 then
        let shorter := ofUnits (units / 10) places
        ⟨shorter.significand, shorter.exponent + 1⟩
      else ⟨units, -RoundingInterval.unitPlaces⟩

/-- The shortest decimal that reads back as the magnitude of a number other than zero. -/
def ofNumber (tie : TieRule) (number : Binary64) : ShortDecimal :=
  let units := (RoundingInterval.ofNumber number).shortestUnits tie
  ofUnits units (RoundingInterval.digitCount units)

end ShortDecimal

end RowLog
