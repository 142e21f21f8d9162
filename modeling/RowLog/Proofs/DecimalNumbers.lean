import RowLog.Decimal.Canonical
import Mathlib.Data.Rat.Defs
import Mathlib.Algebra.Order.Ring.Rat
import Mathlib.Data.List.TakeWhile
import Mathlib.Data.Nat.Cast.Basic
import Mathlib.Tactic.FieldSimp
import Mathlib.Tactic.Ring

/-!
# The numbers that decimals denote

Digits denote a number, with a point among them or without; a literal may have a sign in front of
them and blanks around it. Main statement: the spelling that is chosen for a literal denotes the
same number. So literals with one spelling are equal as numbers.
-/

namespace RowLog

/-- The number with given digits before and after the point. -/
def digitsNumber (whole fraction : List Char) : ℚ :=
  Nat.ofDigitChars 10 whole 0 + Nat.ofDigitChars 10 fraction 0 / 10 ^ fraction.length

/-- The number that digits denote, among which there may be a point. -/
def pointNumber (digits : List Char) : ℚ :=
  digitsNumber (digits.takeWhile (· != '.')) ((digits.dropWhile (· != '.')).drop 1)

/-- The number that a decimal literal denotes. -/
def literalNumber (literal : List Char) : ℚ :=
  let (negative, digits) := splitSign (trimBlanks literal)
  if negative then -pointNumber digits else pointNumber digits

/-- Whether there is at least one digit and at most one point, and nothing else. -/
def HasDecimalDigits (digits : List Char) : Prop :=
  digits.all (fun character => character.isDigit || character == '.') ∧ digits.count '.' ≤ 1 ∧
    digits.any Char.isDigit

instance : DecidablePred HasDecimalDigits :=
  fun _ => inferInstanceAs (Decidable (_ ∧ _ ∧ _))

/-- Whether a text is a decimal literal: digits, after a sign and between blanks, both of which may
be missing. -/
def IsDecimalLiteral (literal : List Char) : Prop :=
  HasDecimalDigits (splitSign (trimBlanks literal)).2

instance : DecidablePred IsDecimalLiteral :=
  fun _ => inferInstanceAs (Decidable (HasDecimalDigits _))

/-- Whether a text has digits only. -/
def IsDigits (text : List Char) : Prop :=
  ∀ character ∈ text, character.isDigit = true

instance : DecidablePred IsDigits :=
  fun text => List.decidableBAll (fun character : Char => character.isDigit = true) text

def StartsWithDigit (text : List Char) : Prop :=
  ∃ head tail, text = head :: tail ∧ head.isDigit = true

section Digits

variable {whole fraction digits : List Char}

theorem IsDigits.append (first : IsDigits whole) (second : IsDigits fraction) :
    IsDigits (whole ++ fraction) := by
  intro character characterMem
  rcases List.mem_append.mp characterMem with wholeMem | fractionMem
  · exact first character wholeMem
  · exact second character fractionMem

theorem IsDigits.dropZeros (isDigits : IsDigits digits) :
    IsDigits (digits.dropWhile (· == '0')) :=
  fun character characterMem => isDigits character ((List.dropWhile_sublist _).mem characterMem)

theorem IsDigits.dropLastZeros (isDigits : IsDigits digits) :
    IsDigits (digits.reverse.dropWhile (· == '0')).reverse := by
  intro character characterMem
  apply isDigits
  simpa using (List.dropWhile_sublist _).mem (List.mem_reverse.mp characterMem)

theorem isDigits_replicate_zero (count : Nat) : IsDigits (List.replicate count '0') := by
  intro character characterMem
  rw [List.eq_of_mem_replicate characterMem]
  rfl

theorem isDigits_toDigits (value : Nat) : IsDigits (Nat.toDigits 10 value) :=
  fun _ characterMem => Nat.isDigit_of_mem_toDigits (by decide) (by decide) characterMem

theorem toDigits_injective : Function.Injective (Nat.toDigits 10) := by
  intro first second same
  rw [← Nat.ofDigitChars_ten_toDigits (n := first), same, Nat.ofDigitChars_ten_toDigits]

theorem IsDigits.startsWithDigit (isDigits : IsDigits digits) (nonempty : digits ≠ []) :
    StartsWithDigit digits := by
  cases digits with
  | nil => contradiction
  | cons head tail => exact ⟨head, tail, rfl, isDigits head (by simp)⟩

/-- A sign is told from the digits that follow it. -/
theorem sign_append_inj {negative otherNegative : Prop} [Decidable negative]
    [Decidable otherNegative] {others : List Char} (starts : StartsWithDigit digits)
    (otherStarts : StartsWithDigit others)
    (same : (if negative then ['-'] else []) ++ digits =
      (if otherNegative then ['-'] else []) ++ others) :
    (negative ↔ otherNegative) ∧ digits = others := by
  have noSign {text rest : List Char} (starts : StartsWithDigit text) : text ≠ '-' :: rest := by
    rintro rfl
    rcases starts with ⟨head, tail, textEq, isDigit⟩
    rw [← (List.cons.inj textEq).1] at isDigit
    contradiction
  split at same
  · next isNegative =>
      split at same
      · next otherIsNegative => exact ⟨by simp [isNegative, otherIsNegative], by simpa using same⟩
      · exact absurd same.symm (noSign otherStarts)
  · next isPositive =>
      split at same
      · exact absurd same (noSign starts)
      · next otherIsPositive => exact ⟨by simp [isPositive, otherIsPositive], by simpa using same⟩

theorem IsDigits.notMem (isDigits : IsDigits digits) (mark : Char)
    (noDigit : mark.isDigit = false) : mark ∉ digits := by
  intro markMem
  rw [isDigits mark markMem] at noDigit
  contradiction

theorem bne_of_notMem {text : List Char} {mark : Char} (absent : mark ∉ text) :
    ∀ character ∈ text, (character != mark) = true := by
  intro character characterMem
  rw [bne_iff_ne]
  rintro rfl
  exact absent characterMem

theorem isBlank_of_isDigit {character : Char} (digit : character.isDigit = true) :
    isBlank character = false := by
  rw [Char.isDigit_iff_toNat] at digit
  apply Bool.eq_false_iff.mpr
  intro blank
  rcases CodeRanges.contains_iff.mp blank with ⟨range, rangeMem, inside⟩
  have apart : ∀ range ∈ blankRanges, range.2 < '0'.toNat ∨ '9'.toNat < range.1 := by decide
  have := apart range rangeMem
  omega

theorem digitsNumber_eq_div (whole fraction : List Char) :
    digitsNumber whole fraction =
      Nat.ofDigitChars 10 (whole ++ fraction) 0 / 10 ^ fraction.length := by
  rw [Nat.ofDigitChars_append, Nat.ofDigitChars_eq_ofDigitChars_zero, digitsNumber]
  push_cast
  field_simp

theorem pointNumber_of_digits (isDigits : IsDigits digits) :
    pointNumber digits = Nat.ofDigitChars 10 digits 0 := by
  have noPoint := bne_of_notMem (isDigits.notMem '.' rfl)
  rw [pointNumber, List.takeWhile_eq_self_iff.mpr noPoint, List.dropWhile_eq_nil_iff.mpr noPoint]
  simp [digitsNumber]

theorem pointNumber_append_point (isDigits : IsDigits whole) (fraction : List Char) :
    pointNumber (whole ++ '.' :: fraction) = digitsNumber whole fraction := by
  have noPoint := bne_of_notMem (isDigits.notMem '.' rfl)
  rw [pointNumber, List.takeWhile_append_of_pos noPoint, List.dropWhile_append_of_pos noPoint]
  simp

theorem exists_dropWhile_zero (digits : List Char) :
    ∃ count, digits = List.replicate count '0' ++ digits.dropWhile (· == '0') := by
  have zeros : ∀ character ∈ digits.takeWhile (· == '0'), character = '0' := by
    intro character characterMem
    simpa using List.mem_takeWhile_imp characterMem
  refine ⟨(digits.takeWhile (· == '0')).length, ?_⟩
  rw [← List.eq_replicate_of_mem zeros]
  exact List.takeWhile_append_dropWhile.symm

theorem ofDigitChars_dropWhile_zero (digits : List Char) :
    Nat.ofDigitChars 10 (digits.dropWhile (· == '0')) 0 = Nat.ofDigitChars 10 digits 0 := by
  rcases exists_dropWhile_zero digits with ⟨count, digitsEq⟩
  conv_rhs => rw [digitsEq, Nat.ofDigitChars_append, Nat.ofDigitChars_replicate_zero]
  simp

/-- Zeros at the end of the digits after the point do not count. -/
theorem digitsNumber_append_zeros (whole fraction : List Char) (count : Nat) :
    digitsNumber whole (fraction ++ List.replicate count '0') = digitsNumber whole fraction := by
  simp only [digitsNumber, Nat.ofDigitChars_append, Nat.ofDigitChars_replicate_zero,
    List.length_append, List.length_replicate, pow_add]
  push_cast
  field_simp

theorem digitsNumber_strip (whole fraction : List Char) :
    digitsNumber (whole.dropWhile (· == '0')) (fraction.reverse.dropWhile (· == '0')).reverse =
      digitsNumber whole fraction := by
  have wholeEq : digitsNumber (whole.dropWhile (· == '0')) fraction =
      digitsNumber whole fraction := by
    rw [digitsNumber, ofDigitChars_dropWhile_zero, digitsNumber]
  rcases exists_dropWhile_zero fraction.reverse with ⟨count, reverseEq⟩
  have fractionEq : fraction =
      (fraction.reverse.dropWhile (· == '0')).reverse ++ List.replicate count '0' := by
    rw [← List.reverse_inj, List.reverse_append, List.reverse_reverse, List.reverse_replicate]
    exact reverseEq
  rw [← wholeEq]
  conv_rhs => rw [fractionEq]
  exact (digitsNumber_append_zeros _ _ count).symm

end Digits

section Literals

variable {whole fraction literal digits : List Char}

theorem trimBlanks_eq_self (noBlank : ∀ character ∈ literal, isBlank character = false) :
    trimBlanks literal = literal := by
  have dropNone {characters : List Char}
      (noBlank : ∀ character ∈ characters, isBlank character = false) :
      characters.dropWhile isBlank = characters := by
    cases characters with
    | nil => rfl
    | cons head tail => simp [noBlank head (by simp)]
  rw [trimBlanks, dropNone noBlank, dropNone (by simpa using noBlank), List.reverse_reverse]

/-- A sign in front of digits is read as one. -/
theorem literalNumber_append (negative : Bool)
    (noBlank : ∀ character ∈ digits, isBlank character = false) (starts : StartsWithDigit digits) :
    literalNumber ((if negative then ['-'] else []) ++ digits) =
      if negative then -pointNumber digits else pointNumber digits := by
  rcases starts with ⟨head, tail, rfl, isDigit⟩
  have trimmed : trimBlanks ((if negative then ['-'] else []) ++ head :: tail) =
      (if negative then ['-'] else []) ++ head :: tail := by
    apply trimBlanks_eq_self
    intro character characterMem
    rcases List.mem_append.mp characterMem with signMem | digitMem
    · cases negative with
      | false => simp at signMem
      | true =>
          rw [List.mem_singleton.mp signMem]
          decide
    · exact noBlank character digitMem
  rw [literalNumber, trimmed]
  cases negative with
  | true => rfl
  | false =>
      have unsigned : splitSign (head :: tail) = (false, head :: tail) := by
        unfold splitSign
        split
        · next same => simp [(List.cons.inj same).1] at isDigit
        · next same => simp [(List.cons.inj same).1] at isDigit
        · rfl
      simp [unsigned]

theorem pointNumber_of_parts (isWhole : IsDigits whole) (isFraction : IsDigits fraction) :
    pointNumber ((if whole.isEmpty then ['0'] else whole) ++
      if fraction.isEmpty then [] else '.' :: fraction) = digitsNumber whole fraction := by
  have front : IsDigits (if whole.isEmpty then ['0'] else whole) := by
    split
    · exact isDigits_replicate_zero 1
    · exact isWhole
  have frontNumber : digitsNumber (if whole.isEmpty then ['0'] else whole) fraction =
      digitsNumber whole fraction := by
    cases whole with
    | nil => rfl
    | cons head tail => rfl
  rw [← frontNumber]
  cases fraction with
  | nil =>
      rw [List.isEmpty_nil, if_pos rfl, List.append_nil, pointNumber_of_digits front]
      simp [digitsNumber]
  | cons head tail => exact pointNumber_append_point front _

/-- A decimal that is put together from its parts denotes the number of the parts. -/
theorem literalNumber_decimalOfParts (negative : Bool) (isWhole : IsDigits whole)
    (isFraction : IsDigits fraction) :
    literalNumber (decimalOfParts negative whole fraction) =
      if negative then -digitsNumber whole fraction else digitsNumber whole fraction := by
  have wholeKept := isWhole.dropZeros
  have fractionKept := isFraction.dropLastZeros
  rw [← digitsNumber_strip whole fraction]
  simp only [decimalOfParts]
  generalize whole.dropWhile (· == '0') = whole at *
  generalize (fraction.reverse.dropWhile (· == '0')).reverse = fraction at *
  rw [List.append_assoc, literalNumber_append, pointNumber_of_parts wholeKept fractionKept]
  · -- Without a digit that counts, the sign is left out, and the number is zero.
    cases negative with
    | false => rfl
    | true =>
        cases whole with
        | cons head tail => simp
        | nil =>
            cases fraction with
            | cons head tail => simp
            | nil => simp [digitsNumber]
  · intro character characterMem
    rcases List.mem_append.mp characterMem with frontMem | backMem
    · apply isBlank_of_isDigit
      split at frontMem
      · rw [List.mem_singleton.mp frontMem]
        rfl
      · exact wholeKept character frontMem
    · split at backMem
      · simp at backMem
      · rcases List.mem_cons.mp backMem with rfl | fractionMem
        · decide
        · exact isBlank_of_isDigit (fractionKept character fractionMem)
  · cases whole with
    | nil => exact ⟨'0', _, rfl, rfl⟩
    | cons head tail => exact ⟨head, _, rfl, wholeKept head (by simp)⟩

/-- What follows the only point of a decimal are digits. -/
theorem isDigits_afterPoint (characters : ∀ character ∈ digits, character.isDigit ∨ character = '.')
    (points : digits.count '.' ≤ 1) : IsDigits ((digits.dropWhile (· != '.')).drop 1) := by
  intro character characterMem
  have allowed := characters character
    ((List.dropWhile_sublist _).mem ((List.drop_sublist _ _).mem characterMem))
  rcases allowed with isDigit | rfl
  · exact isDigit
  · have rest : (digits.dropWhile (· != '.')).count '.' ≤ 1 :=
      (List.Sublist.count_le '.' (List.dropWhile_sublist _)).trans points
    cases dropped : digits.dropWhile (· != '.') with
    | nil => simp [dropped] at characterMem
    | cons head tail =>
        have headEq : head = '.' := by
          have := List.head?_dropWhile_not (· != '.') digits
          simpa [dropped] using this
        rw [dropped] at characterMem rest
        have again : 0 < tail.count '.' := List.count_pos_iff.mpr (by simpa using characterMem)
        rw [headEq, List.count_cons_self] at rest
        omega

theorem canonicalDecimal_ne_nil (literal : List Char) : canonicalDecimal literal ≠ [] := by
  intro empty
  simp only [canonicalDecimal, decimalOfParts, List.append_eq_nil_iff] at empty
  rcases empty with ⟨⟨-, noDigits⟩, -⟩
  split at noDigits
  · contradiction
  · next nonempty => exact nonempty (by rw [noDigits]; rfl)

theorem literalNumber_canonicalDecimal (isLiteral : IsDecimalLiteral literal) :
    literalNumber (canonicalDecimal literal) = literalNumber literal := by
  rcases isLiteral with ⟨all, points, -⟩
  have characters : ∀ character ∈ (splitSign (trimBlanks literal)).2,
      character.isDigit ∨ character = '.' := by
    simpa using all
  rw [canonicalDecimal, literalNumber_decimalOfParts]
  · rfl
  · intro character characterMem
    have noPoint := List.mem_takeWhile_imp characterMem
    have allowed := characters character ((List.takeWhile_sublist _).mem characterMem)
    simpa [bne_iff_ne.mp noPoint] using allowed
  · exact isDigits_afterPoint characters points

end Literals

end RowLog
