/-!
# Finite binary floating-point numbers

A number of the 64-bit binary format is kept by its bits: a sign, eleven bits of exponent and
fifty-two bits of fraction. Infinities and the values that are no number are excluded by the type,
so every number here has a sign and a magnitude `significand * 2 ^ exponent`.
-/

namespace RowLog

def exponentBits (bits : UInt64) : Nat :=
  bits.toNat / 0x10000000000000 % 2048

/-- A finite number of the 64-bit binary format. -/
structure Binary64 where
  /-- The sign, exponent and fraction bits, from the highest to the lowest. -/
  bits : UInt64
  /-- The highest exponent is kept for infinities and for what is no number. -/
  finite : exponentBits bits ≠ 2047
  deriving DecidableEq

namespace Binary64

/-- The finite number with the value of a machine float, if it has one. -/
def ofFloat? (value : Float) : Option Binary64 :=
  let bits := value.toBits
  if finite : exponentBits bits ≠ 2047 then some ⟨bits, finite⟩ else none

/-- Whether the sign bit is set; this tells the two zeros apart. -/
def isNegative (number : Binary64) : Bool :=
  0x8000000000000000 ≤ number.bits.toNat

def fraction (number : Binary64) : Nat :=
  number.bits.toNat % 0x10000000000000

/-- Whether the leading bit of the significand is implied, as it is but for the least exponent. -/
def isNormal (number : Binary64) : Bool :=
  exponentBits number.bits != 0

/-- The whole number which, scaled by a power of two, is the magnitude. -/
def significand (number : Binary64) : Nat :=
  if number.isNormal then 0x10000000000000 + number.fraction else number.fraction

/-- The scale of the significand, counted from the least one: the magnitude is
`significand * 2 ^ (scale - 1074)`. -/
def scale (number : Binary64) : Nat :=
  exponentBits number.bits - 1

/-- Whether the next number below in magnitude is only half as far away as the next one above. -/
def isCloserBelow (number : Binary64) : Bool :=
  number.fraction == 0 && 1 < exponentBits number.bits

end Binary64

end RowLog
