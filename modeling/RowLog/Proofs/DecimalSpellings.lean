import RowLog.Proofs.DecimalNumbers
import Mathlib.Algebra.Order.Field.Rat
import Mathlib.Tactic.Linarith
import Mathlib.Tactic.Positivity

/-!
# Spellings of a decimal

A decimal is spelled by digits with at most one point among them, after a sign that may be missing
and between blanks. Without zeros that do not count, its digits are told by its number; so what
`canonicalDecimal` makes of two spellings is the same exactly if they spell the same number. Main
statement: `canonicalDecimal_eq_iff`.
-/

namespace RowLog

/-- Whether a text spells a number: blanks, a sign, digits, a point, digits and blanks, of which
everything may be missing but some digit. -/
def SpellsDecimal (literal : List Char) (number : ℚ) : Prop :=
  ∃ before sign whole point fraction after,
    literal = before ++ (sign ++ (whole ++ (point ++ fraction))) ++ after ∧
      (before ++ after).all isBlank = true ∧
      (sign = [] ∨ sign = ['+'] ∨ sign = ['-']) ∧
      IsDigits whole ∧ IsDigits fraction ∧ whole ++ fraction ≠ [] ∧
      (point = ['.'] ∨ point = [] ∧ fraction = []) ∧
      number = if sign = ['-'] then -digitsNumber whole fraction else digitsNumber whole fraction

section Digits

variable {digits others whole fraction otherWhole otherFraction : List Char}

theorem ofDigitChars_lt (isDigits : IsDigits digits) :
    Nat.ofDigitChars 10 digits 0 < 10 ^ digits.length := by
  induction digits with
  | nil => simp
  | cons head tail ih =>
      have tailBound := ih fun character characterMem => isDigits character (by simp [characterMem])
      have headBound := (Char.isDigit_iff_toNat.mp (isDigits head (by simp))).2
      have digit : head.toNat - '0'.toNat ≤ 9 := Nat.sub_le_of_le_add headBound
      rw [Nat.ofDigitChars_cons, Nat.ofDigitChars_eq_ofDigitChars_zero, Nat.mul_zero, Nat.zero_add]
      calc
        10 ^ tail.length * (head.toNat - '0'.toNat) + Nat.ofDigitChars 10 tail 0
            < 10 ^ tail.length * (head.toNat - '0'.toNat) + 10 ^ tail.length := by omega
        _ = 10 ^ tail.length * (head.toNat - '0'.toNat + 1) := (Nat.mul_succ _ _).symm
        _ ≤ 10 ^ tail.length * 10 := Nat.mul_le_mul_left _ (by omega)

/-- A number below a bound is told from the multiple of the bound that it is added to. -/
theorem eq_of_mul_add_eq {bound first second low other : Nat} (isLow : low < bound)
    (otherLow : other < bound) (same : bound * first + low = bound * second + other) :
    first = second ∧ low = other := by
  have quotients := congrArg (· / bound) same
  have remainders := congrArg (· % bound) same
  simp only [Nat.mul_add_div (Nat.zero_lt_of_lt isLow), Nat.div_eq_of_lt isLow,
    Nat.div_eq_of_lt otherLow] at quotients
  simp only [Nat.mul_add_mod, Nat.mod_eq_of_lt isLow, Nat.mod_eq_of_lt otherLow] at remainders
  exact ⟨quotients, remainders⟩

/-- As many digits as others, with the same value, are the same digits. -/
theorem eq_of_ofDigitChars_eq (isDigits : IsDigits digits) (areDigits : IsDigits others)
    (lengths : digits.length = others.length)
    (same : Nat.ofDigitChars 10 digits 0 = Nat.ofDigitChars 10 others 0) : digits = others := by
  induction digits generalizing others with
  | nil => exact (List.length_eq_zero_iff.mp lengths.symm).symm
  | cons head tail ih =>
      cases others with
      | nil => contradiction
      | cons first rest =>
          have tailDigits : IsDigits tail := fun _ laterMem => isDigits _ (by simp [laterMem])
          have restDigits : IsDigits rest := fun _ laterMem => areDigits _ (by simp [laterMem])
          have tailLength : tail.length = rest.length := by simpa using lengths
          rw [Nat.ofDigitChars_cons, Nat.ofDigitChars_eq_ofDigitChars_zero, Nat.ofDigitChars_cons,
            Nat.ofDigitChars_eq_ofDigitChars_zero (l := rest), ← tailLength] at same
          have restBound := ofDigitChars_lt restDigits
          rw [← tailLength] at restBound
          rcases eq_of_mul_add_eq (ofDigitChars_lt tailDigits) restBound same with
            ⟨headSame, tailSame⟩
          have headBound := (Char.isDigit_iff_toNat.mp (isDigits head (by simp))).1
          have firstBound := (Char.isDigit_iff_toNat.mp (areDigits first (by simp))).1
          have headEq : head = first := Char.toNat_inj.mp (by omega)
          rw [headEq, ih tailDigits restDigits tailLength tailSame]

theorem head?_dropWhile_zero (digits : List Char) :
    (digits.dropWhile (· == '0')).head? ≠ some '0' := by
  intro head
  have := List.head?_dropWhile_not (· == '0') digits
  simp [head] at this

/-- Digits are not a longer list of digits with the same value, unless this starts with a zero. -/
theorem eq_of_length_le (isDigits : IsDigits digits) (areDigits : IsDigits others)
    (shorter : digits.length ≤ others.length) (noZero : others.head? ≠ some '0')
    (same : Nat.ofDigitChars 10 digits 0 = Nat.ofDigitChars 10 others 0) : digits = others := by
  rcases Nat.exists_eq_add_of_le shorter with ⟨count, lengthEq⟩
  have padded : List.replicate count '0' ++ digits = others := by
    apply eq_of_ofDigitChars_eq ((isDigits_replicate_zero count).append isDigits) areDigits
    · simp [lengthEq, Nat.add_comm]
    · rw [Nat.ofDigitChars_append, Nat.ofDigitChars_replicate_zero, Nat.mul_zero, same]
  cases count with
  | zero => simpa using padded
  | succ count => simp [← padded, List.replicate_succ] at noZero

theorem eq_of_head?_ne_zero (isDigits : IsDigits digits) (areDigits : IsDigits others)
    (noZero : digits.head? ≠ some '0') (noOtherZero : others.head? ≠ some '0')
    (same : Nat.ofDigitChars 10 digits 0 = Nat.ofDigitChars 10 others 0) : digits = others := by
  rcases Nat.le_total digits.length others.length with shorter | longer
  · exact eq_of_length_le isDigits areDigits shorter noOtherZero same
  · exact (eq_of_length_le areDigits isDigits longer noZero same.symm).symm

/-- The digits after the point are not more with the same number, unless a zero is the last. -/
theorem eq_of_digitsNumber_eq_of_le (isFraction : IsDigits fraction)
    (areFraction : IsDigits otherFraction) (shorter : fraction.length ≤ otherFraction.length)
    (noZero : otherFraction.reverse.head? ≠ some '0')
    (same : digitsNumber whole fraction = digitsNumber otherWhole otherFraction) :
    Nat.ofDigitChars 10 whole 0 = Nat.ofDigitChars 10 otherWhole 0 ∧ fraction = otherFraction := by
  rcases Nat.exists_eq_add_of_le shorter with ⟨count, lengthEq⟩
  have areDigits := isFraction.append (isDigits_replicate_zero count)
  rw [← digitsNumber_append_zeros whole fraction count] at same
  -- From here on the digits that are added are told by the digits that they make together.
  generalize paddedEq : fraction ++ List.replicate count '0' = padded at same areDigits
  have lengths : padded.length = otherFraction.length := by simp [← paddedEq, lengthEq]
  have power : (10 : ℚ) ^ otherFraction.length ≠ 0 := pow_ne_zero _ (by norm_num)
  rw [digitsNumber_eq_div, digitsNumber_eq_div, lengths, div_left_inj' power, Nat.cast_inj,
    Nat.ofDigitChars_append, Nat.ofDigitChars_eq_ofDigitChars_zero (l := padded), lengths,
    Nat.ofDigitChars_append, Nat.ofDigitChars_eq_ofDigitChars_zero (l := otherFraction)] at same
  have bound := ofDigitChars_lt areDigits
  rw [lengths] at bound
  rcases eq_of_mul_add_eq bound (ofDigitChars_lt areFraction) same with ⟨wholeSame, fractionSame⟩
  have paddedSame := eq_of_ofDigitChars_eq areDigits areFraction lengths fractionSame
  refine ⟨wholeSame, ?_⟩
  cases count with
  | zero => simpa [paddedSame] using paddedEq
  | succ count => simp [← paddedSame, ← paddedEq, List.replicate_succ'] at noZero

/-- Without zeros at either end, the digits around a point are told by the number. -/
theorem digitsNumber_inj (isWhole : IsDigits whole) (isFraction : IsDigits fraction)
    (areWhole : IsDigits otherWhole) (areFraction : IsDigits otherFraction)
    (noZero : whole.head? ≠ some '0') (noLastZero : fraction.reverse.head? ≠ some '0')
    (noOtherZero : otherWhole.head? ≠ some '0')
    (noOtherLastZero : otherFraction.reverse.head? ≠ some '0')
    (same : digitsNumber whole fraction = digitsNumber otherWhole otherFraction) :
    whole = otherWhole ∧ fraction = otherFraction := by
  have parts : Nat.ofDigitChars 10 whole 0 = Nat.ofDigitChars 10 otherWhole 0 ∧
      fraction = otherFraction := by
    rcases Nat.le_total fraction.length otherFraction.length with shorter | longer
    · exact eq_of_digitsNumber_eq_of_le isFraction areFraction shorter noOtherLastZero same
    · rcases eq_of_digitsNumber_eq_of_le areFraction isFraction longer noLastZero same.symm with
        ⟨wholeSame, fractionSame⟩
      exact ⟨wholeSame.symm, fractionSame.symm⟩
  exact ⟨eq_of_head?_ne_zero isWhole areWhole noZero noOtherZero parts.1, parts.2⟩

end Digits

section Spellings

variable {literal other whole fraction otherWhole otherFraction : List Char}
  {number otherNumber : ℚ}

theorem digitsNumber_nonneg (whole fraction : List Char) : 0 ≤ digitsNumber whole fraction := by
  unfold digitsNumber
  positivity

/-- Numbers with signs are equal if they are equal without and have one sign, or are zero. -/
theorem eq_and_sign_of_signed_eq {first second : ℚ} {negative negated : Bool} (isFirst : 0 ≤ first)
    (isSecond : 0 ≤ second)
    (same : (if negative then -first else first) = if negated then -second else second) :
    first = second ∧ (negative = negated ∨ first = 0) := by
  cases negative <;> cases negated <;> simp only [if_true, Bool.false_eq_true, if_false] at same
  · exact ⟨same, .inl rfl⟩
  · exact ⟨by linarith, .inr (by linarith)⟩
  · exact ⟨by linarith, .inr (by linarith)⟩
  · exact ⟨neg_inj.mp same, .inl rfl⟩

/-- Decimals that are put together from parts with one number are the same. -/
theorem decimalOfParts_eq_of_number_eq {negative negated : Bool} (isWhole : IsDigits whole)
    (isFraction : IsDigits fraction) (areWhole : IsDigits otherWhole)
    (areFraction : IsDigits otherFraction)
    (same : (if negative then -digitsNumber whole fraction else digitsNumber whole fraction) =
      if negated then -digitsNumber otherWhole otherFraction
      else digitsNumber otherWhole otherFraction) :
    decimalOfParts negative whole fraction = decimalOfParts negated otherWhole otherFraction := by
  rcases eq_and_sign_of_signed_eq (digitsNumber_nonneg _ _) (digitsNumber_nonneg _ _) same with
    ⟨magnitudes, signs⟩
  rw [← digitsNumber_strip whole fraction] at signs
  rw [← digitsNumber_strip whole fraction, ← digitsNumber_strip otherWhole otherFraction]
    at magnitudes
  have lastZero (digits : List Char) :
      (digits.reverse.dropWhile (· == '0')).reverse.reverse.head? ≠ some '0' := by
    rw [List.reverse_reverse]
    exact head?_dropWhile_zero digits.reverse
  rcases digitsNumber_inj isWhole.dropZeros isFraction.dropLastZeros areWhole.dropZeros
    areFraction.dropLastZeros (head?_dropWhile_zero _) (lastZero _) (head?_dropWhile_zero _)
    (lastZero _) magnitudes with ⟨wholeEq, fractionEq⟩
  rcases signs with rfl | isZero
  · simp only [decimalOfParts, wholeEq, fractionEq]
  · -- Zero has no digits that count, and then no sign either.
    have zero : digitsNumber [] [] = 0 := by simp [digitsNumber]
    rcases digitsNumber_inj isWhole.dropZeros isFraction.dropLastZeros (by simp [IsDigits])
      (by simp [IsDigits]) (head?_dropWhile_zero _) (lastZero _) (by simp) (by simp)
      (isZero.trans zero.symm) with ⟨wholeNil, fractionNil⟩
    simp [decimalOfParts, ← wholeEq, ← fractionEq, wholeNil, fractionNil]

theorem trimBlanks_append {before core after : List Char}
    (blankBefore : ∀ blank ∈ before, isBlank blank = true)
    (blankAfter : ∀ blank ∈ after, isBlank blank = true)
    (noBlank : ∀ character ∈ core, isBlank character = false) :
    trimBlanks (before ++ core ++ after) = core := by
  cases core with
  | nil =>
      have allBlank : ∀ blank ∈ before ++ [] ++ after, isBlank blank = true := by
        simpa [or_imp, forall_and] using ⟨blankBefore, blankAfter⟩
      rw [trimBlanks, List.dropWhile_eq_nil_iff.mpr allBlank]
      rfl
  | cons head tail =>
      have front : (before ++ (head :: tail) ++ after).dropWhile isBlank =
          head :: tail ++ after := by
        rw [List.append_assoc, List.dropWhile_append_of_pos blankBefore]
        simp [noBlank head (by simp)]
      have back : (after.reverse ++ (head :: tail).reverse).dropWhile isBlank =
          (head :: tail).reverse := by
        rw [List.dropWhile_append_of_pos (by simpa using blankAfter)]
        cases reversed : (head :: tail).reverse with
        | nil => rfl
        | cons last others =>
            have lastMem : last ∈ head :: tail := by
              rw [← List.mem_reverse, reversed]
              simp
            simp [noBlank last lastMem]
      rw [trimBlanks, front, List.reverse_append, back, List.reverse_reverse]

theorem isBlank_eq_false_of_isDigits (isDigits : IsDigits whole) :
    ∀ character ∈ whole, isBlank character = false :=
  fun character characterMem => isBlank_of_isDigit (isDigits character characterMem)

theorem splitSign_append {sign digits : List Char}
    (isSign : sign = [] ∨ sign = ['+'] ∨ sign = ['-'])
    (unsigned : ∀ mark ∈ digits.head?, mark.isDigit = true ∨ mark = '.') :
    splitSign (sign ++ digits) = (decide (sign = ['-']), digits) := by
  rcases isSign with rfl | rfl | rfl
  · unfold splitSign
    split
    · next rest digitsEq => simp_all
    · next rest digitsEq => simp_all
    · simp
  · rfl
  · rfl

/-- What is made of a text that spells a number is put together from digits with this number. -/
theorem SpellsDecimal.exists_parts (spells : SpellsDecimal literal number) :
    ∃ negative whole fraction, IsDigits whole ∧ IsDigits fraction ∧
      canonicalDecimal literal = decimalOfParts negative whole fraction ∧
      number = if negative then -digitsNumber whole fraction else digitsNumber whole fraction := by
  rcases spells with ⟨before, sign, whole, point, fraction, after, rfl, blanks, isSign, isWhole,
    isFraction, someDigit, isPoint, rfl⟩
  refine ⟨decide (sign = ['-']), whole, fraction, isWhole, isFraction, ?_, by simp⟩
  have trimmed : trimBlanks (before ++ (sign ++ (whole ++ (point ++ fraction))) ++ after) =
      sign ++ (whole ++ (point ++ fraction)) := by
    apply trimBlanks_append
    · exact fun blank blankMem => List.all_eq_true.mp blanks blank (by simp [blankMem])
    · exact fun blank blankMem => List.all_eq_true.mp blanks blank (by simp [blankMem])
    · have wholeBlank := isBlank_eq_false_of_isDigits isWhole
      have fractionBlank := isBlank_eq_false_of_isDigits isFraction
      have noMark : isBlank '+' = false ∧ isBlank '-' = false ∧ isBlank '.' = false := by decide
      have signBlank : ∀ mark ∈ sign, isBlank mark = false := by
        rcases isSign with rfl | rfl | rfl <;> simp [noMark]
      have pointBlank : ∀ mark ∈ point, isBlank mark = false := by
        rcases isPoint with rfl | ⟨rfl, -⟩ <;> simp [noMark]
      simpa only [List.forall_mem_append] using ⟨signBlank, wholeBlank, pointBlank, fractionBlank⟩
  have unsigned : ∀ mark ∈ (whole ++ (point ++ fraction)).head?,
      mark.isDigit = true ∨ mark = '.' := by
    cases whole with
    | cons head tail => simp [isWhole head (by simp)]
    | nil =>
        rcases isPoint with rfl | ⟨rfl, rfl⟩
        · simp
        · simp at someDigit
  have noPoint := bne_of_notMem (isWhole.notMem '.' rfl)
  rw [canonicalDecimal, trimmed, splitSign_append isSign unsigned]
  dsimp only
  rw [List.takeWhile_append_of_pos noPoint, List.dropWhile_append_of_pos noPoint]
  rcases isPoint with rfl | ⟨rfl, rfl⟩
  · simp
  · simp

/-- The spelling that is chosen for a number denotes it. -/
theorem SpellsDecimal.literalNumber_canonicalDecimal (spells : SpellsDecimal literal number) :
    literalNumber (canonicalDecimal literal) = number := by
  rcases spells.exists_parts with ⟨negative, whole, fraction, isWhole, isFraction, chosen, rfl⟩
  rw [chosen, literalNumber_decimalOfParts negative isWhole isFraction]

/-- One spelling is chosen for two literals exactly if they spell one number. -/
theorem canonicalDecimal_eq_iff (spells : SpellsDecimal literal number)
    (otherSpells : SpellsDecimal other otherNumber) :
    canonicalDecimal literal = canonicalDecimal other ↔ number = otherNumber := by
  constructor
  · intro same
    rw [← spells.literalNumber_canonicalDecimal, same, otherSpells.literalNumber_canonicalDecimal]
  · rintro rfl
    rcases spells.exists_parts with ⟨negative, whole, fraction, isWhole, isFraction, chosen, number⟩
    rcases otherSpells.exists_parts with
      ⟨negated, otherWhole, otherFraction, areWhole, areFraction, otherChosen, otherNumber⟩
    rw [chosen, otherChosen]
    exact decimalOfParts_eq_of_number_eq isWhole isFraction areWhole areFraction
      (number.symm.trans otherNumber)

end Spellings

end RowLog
