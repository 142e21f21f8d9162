import RowLog.Decimal.Layout
import RowLog.Proofs.DecimalNumbers
import RowLog.Proofs.RoundingIntervals

/-!
# Written numbers

Whatever the layout, the text of a floating-point number denotes the decimal that is chosen for it.
Since that decimal tells the magnitude and the sign stands in front, no two numbers have one text.
-/

namespace RowLog

/-- The number that a text denotes in which an exponent may follow the digits. -/
def writtenNumber (text : List Char) : ℚ :=
  let (negative, power) := splitSign ((text.dropWhile (· != 'e')).drop 1)
  let exponent : Int := Nat.ofDigitChars 10 power 0
  pointNumber (text.takeWhile (· != 'e')) * 10 ^ (if negative then -exponent else exponent)

theorem writtenNumber_of_no_exponent {text : List Char} (plain : 'e' ∉ text) :
    writtenNumber text = pointNumber text := by
  have noMark := bne_of_notMem plain
  simp [writtenNumber, List.takeWhile_eq_self_iff.mpr noMark, List.dropWhile_eq_nil_iff.mpr noMark,
    splitSign]

theorem writtenNumber_append_exponent {text : List Char} (plain : 'e' ∉ text) (power : Int) :
    writtenNumber (text ++ ['e', if power < 0 then '-' else '+'] ++ Nat.toDigits 10 power.natAbs) =
      pointNumber text * 10 ^ power := by
  have noMark := bne_of_notMem plain
  rw [writtenNumber, List.append_assoc, List.takeWhile_append_of_pos noMark,
    List.dropWhile_append_of_pos noMark]
  by_cases negative : power < 0
  · simp [negative, splitSign, abs_of_neg negative, Nat.ofDigitChars_ten_toDigits]
  · simp [negative, splitSign, abs_of_nonneg (Int.not_lt.mp negative),
      Nat.ofDigitChars_ten_toDigits]

namespace DecimalLayout

variable {layout : DecimalLayout} {digits : List Char} {exponent : Int}

theorem pointNumber_plain (isDigits : IsDigits digits) :
    pointNumber (layout.plain digits exponent) = Nat.ofDigitChars 10 digits 0 * 10 ^ exponent := by
  simp only [plain]
  split
  · next whole =>
      rcases Int.eq_ofNat_of_zero_le whole with ⟨zeros, rfl⟩
      have allDigits := isDigits.append (isDigits_replicate_zero zeros)
      have number : (Nat.ofDigitChars 10 (digits ++ List.replicate zeros '0') 0 : ℚ) =
          Nat.ofDigitChars 10 digits 0 * 10 ^ zeros := by
        rw [Nat.ofDigitChars_append, Nat.ofDigitChars_replicate_zero]
        push_cast
        ring
      rw [Int.toNat_natCast, zpow_natCast, ← number]
      split
      · rw [pointNumber_append_point allDigits]
        simp [digitsNumber, Nat.ofDigitChars_cons]
      · rw [List.append_nil, pointNumber_of_digits allDigits]
  · split
    · next fractional inside =>
        have front : IsDigits (digits.take (digits.length + exponent).toNat) :=
          fun character characterMem => isDigits character (List.mem_of_mem_take characterMem)
        have places :
            exponent = -((digits.drop (digits.length + exponent).toNat).length : Int) := by
          rw [List.length_drop]
          omega
        rw [pointNumber_append_point front, digitsNumber_eq_div, List.take_append_drop]
        conv_rhs => rw [places]
        rw [zpow_neg, zpow_natCast, div_eq_mul_inv]
    · next fractional before =>
        have places : exponent =
            -((List.replicate (-(digits.length + exponent)).toNat '0' ++ digits).length : Int) := by
          rw [List.length_append, List.length_replicate]
          omega
        have zero : IsDigits ['0'] := isDigits_replicate_zero 1
        have split := pointNumber_append_point zero
          (List.replicate (-(digits.length + exponent)).toNat '0' ++ digits)
        rw [List.singleton_append] at split
        rw [List.cons_append, List.cons_append, split, digitsNumber_eq_div]
        conv_rhs => rw [places]
        rw [zpow_neg, zpow_natCast, div_eq_mul_inv]
        simp [Nat.ofDigitChars_append, Nat.ofDigitChars_replicate_zero, Nat.ofDigitChars_cons]

theorem mem_plain (isDigits : IsDigits digits) :
    ∀ character ∈ layout.plain digits exponent, character.isDigit ∨ character = '.' := by
  intro character characterMem
  have digit (characterMem : character ∈ digits) : character.isDigit ∨ character = '.' :=
    .inl (isDigits character characterMem)
  have zero (count : Nat) (characterMem : character ∈ List.replicate count '0') :
      character.isDigit ∨ character = '.' :=
    .inl (isDigits_replicate_zero count character characterMem)
  simp only [plain] at characterMem
  split at characterMem
  · rcases List.mem_append.mp characterMem with allMem | pointMem
    · rcases List.mem_append.mp allMem with digitMem | zeroMem
      · exact digit digitMem
      · exact zero _ zeroMem
    · split at pointMem
      · rcases List.mem_cons.mp pointMem with rfl | zeroMem
        · exact .inr rfl
        · exact zero 1 zeroMem
      · simp at pointMem
  · split at characterMem
    · rcases List.mem_append.mp characterMem with frontMem | backMem
      · exact digit (List.mem_of_mem_take frontMem)
      · rcases List.mem_cons.mp backMem with rfl | backMem
        · exact .inr rfl
        · exact digit (List.mem_of_mem_drop backMem)
    · rcases List.mem_append.mp characterMem with frontMem | digitMem
      · rcases List.mem_cons.mp frontMem with rfl | frontMem
        · exact .inl rfl
        · rcases List.mem_cons.mp frontMem with rfl | zeroMem
          · exact .inr rfl
          · exact zero _ zeroMem
      · exact digit digitMem

theorem startsWithDigit_plain (isDigits : IsDigits digits) (nonempty : digits ≠ []) :
    StartsWithDigit (layout.plain digits exponent) := by
  cases digits with
  | nil => contradiction
  | cons head tail =>
      have headDigit : head.isDigit = true := isDigits head (by simp)
      simp only [plain]
      split
      · exact ⟨head, _, rfl, headDigit⟩
      · split
        · next inside =>
            obtain ⟨places, placesEq⟩ := Nat.exists_eq_add_of_lt (Int.lt_toNat.mpr inside)
            rw [Nat.zero_add] at placesEq
            rw [placesEq]
            exact ⟨head, _, rfl, headDigit⟩
        · exact ⟨'0', _, rfl, rfl⟩

variable {head : Char} {tail : List Char}

theorem pointNumber_mantissa (isDigits : IsDigits (head :: tail)) :
    pointNumber (head :: if (head :: tail).length == 1 then [] else '.' :: tail) =
      Nat.ofDigitChars 10 (head :: tail) 0 / 10 ^ tail.length := by
  split
  · next single =>
      have tailEq : tail = [] := by simpa using single
      subst tailEq
      rw [pointNumber_of_digits isDigits]
      simp
  · have front : IsDigits [head] :=
      fun character characterMem => isDigits character (List.mem_of_mem_take (i := 1) characterMem)
    have split := pointNumber_append_point front tail
    rw [List.singleton_append] at split
    rw [split, digitsNumber_eq_div, List.singleton_append]

theorem mem_mantissa (isDigits : IsDigits (head :: tail)) :
    ∀ character ∈ head :: if (head :: tail).length == 1 then [] else '.' :: tail,
      character.isDigit ∨ character = '.' := by
  intro character characterMem
  rcases List.mem_cons.mp characterMem with rfl | backMem
  · exact .inl (isDigits character (by simp))
  · split at backMem
    · simp at backMem
    · rcases List.mem_cons.mp backMem with rfl | tailMem
      · exact .inr rfl
      · exact .inl (isDigits character (by simp [tailMem]))

theorem notMem_of_point {text : List Char}
    (characters : ∀ character ∈ text, character.isDigit ∨ character = '.') (mark : Char)
    (noDigit : mark.isDigit = false) (noPoint : mark ≠ '.') : mark ∉ text := by
  intro markMem
  rcases characters mark markMem with isDigit | isPoint
  · rw [isDigit] at noDigit
    contradiction
  · exact noPoint isPoint

theorem writtenNumber_plain (isDigits : IsDigits digits) :
    writtenNumber (layout.plain digits exponent) =
      Nat.ofDigitChars 10 digits 0 * 10 ^ exponent := by
  rw [writtenNumber_of_no_exponent (notMem_of_point (mem_plain isDigits) 'e' rfl (by decide)),
    pointNumber_plain isDigits]

theorem writtenNumber_scientific (isDigits : IsDigits (head :: tail)) :
    writtenNumber (scientific (head :: tail) exponent) =
      Nat.ofDigitChars 10 (head :: tail) 0 * 10 ^ exponent := by
  have noMark := notMem_of_point (mem_mantissa isDigits) 'e' rfl (by decide)
  have written := writtenNumber_append_exponent noMark ((head :: tail).length + exponent - 1)
  have powerEq : ((head :: tail).length + exponent - 1 : Int) = tail.length + exponent := by
    rw [List.length_cons]
    push_cast
    ring
  refine written.trans ?_
  rw [pointNumber_mantissa isDigits, powerEq, zpow_add₀ (by norm_num), zpow_natCast]
  field_simp

theorem point_mem_plain (keeps : layout.keepsFraction = true) :
    '.' ∈ layout.plain digits exponent := by
  simp only [plain, keeps, if_true]
  split
  · simp
  · split <;> simp

/-- What a layout writes: a sign, and then a zero or the digits of the decimal that is chosen, in
one of two forms. -/
theorem exists_write_eq (layout : DecimalLayout) (number : Binary64) :
    ∃ text, layout.write number = (if number.isNegative then ['-'] else []) ++ text ∧
      (number.significand = 0 ∧ text = '0' :: (if layout.keepsFraction then ['.', '0'] else []) ∨
        number.significand ≠ 0 ∧ ∃ head tail exponent, IsDigits (head :: tail) ∧
          Nat.ofDigitChars 10 (head :: tail) 0 * 10 ^ exponent =
            (ShortDecimal.ofNumber layout.tie number).value ∧
          (text = layout.plain (head :: tail) exponent ∨
            text = scientific (head :: tail) exponent)) := by
  by_cases zero : number.significand = 0
  · refine ⟨_, ?_, .inl ⟨zero, rfl⟩⟩
    cases keeps : layout.keepsFraction <;> simp [write, zero, keeps]
  · have isDigits := isDigits_toDigits (ShortDecimal.ofNumber layout.tie number).significand
    have value : (Nat.ofDigitChars 10
          (Nat.toDigits 10 (ShortDecimal.ofNumber layout.tie number).significand) 0 : ℚ) *
        10 ^ (ShortDecimal.ofNumber layout.tie number).exponent =
          (ShortDecimal.ofNumber layout.tie number).value := by
      rw [Nat.ofDigitChars_ten_toDigits]
      rfl
    simp only [write, beq_iff_eq, zero, if_false]
    refine ⟨_, rfl, .inr ⟨zero, ?_⟩⟩
    cases digitsEq : Nat.toDigits 10 (ShortDecimal.ofNumber layout.tie number).significand with
    | nil => exact absurd digitsEq Nat.toDigits_ne_nil
    | cons head tail =>
        rw [digitsEq] at isDigits value
        refine ⟨head, tail, _, isDigits, value, ?_⟩
        split
        · exact .inl rfl
        · exact .inr rfl

/-- Without its sign, the text of a number denotes the magnitude of the decimal that is chosen. -/
theorem exists_writtenNumber_eq (layout : DecimalLayout) (number : Binary64) :
    ∃ text, layout.write number = (if number.isNegative then ['-'] else []) ++ text ∧
      StartsWithDigit text ∧
      writtenNumber text = if number.significand = 0 then 0 else
        (ShortDecimal.ofNumber layout.tie number).value := by
  rcases exists_write_eq layout number with
    ⟨text, textEq, ⟨zero, rfl⟩ | ⟨nonzero, head, tail, exponent, isDigits, value, form⟩⟩
  · refine ⟨_, textEq, ⟨'0', _, rfl, rfl⟩, ?_⟩
    have isDigits : IsDigits ['0'] := isDigits_replicate_zero 1
    rw [if_pos zero]
    split
    · have split := pointNumber_append_point isDigits ['0']
      rw [writtenNumber_of_no_exponent (by decide)]
      simpa [digitsNumber, Nat.ofDigitChars_cons] using split
    · rw [writtenNumber_of_no_exponent (by decide), pointNumber_of_digits isDigits]
      simp [Nat.ofDigitChars_cons]
  · refine ⟨text, textEq, ?_⟩
    rw [if_neg nonzero, ← value]
    rcases form with rfl | rfl
    · exact ⟨startsWithDigit_plain isDigits (by simp), writtenNumber_plain isDigits⟩
    · exact ⟨⟨head, _, rfl, isDigits head (by simp)⟩, writtenNumber_scientific isDigits⟩

theorem write_injective (layout : DecimalLayout) : Function.Injective layout.write := by
  intro number other same
  rcases exists_writtenNumber_eq layout number with ⟨text, textEq, starts, value⟩
  rcases exists_writtenNumber_eq layout other with ⟨otherText, otherEq, otherStarts, otherValue⟩
  rw [textEq, otherEq] at same
  rcases sign_append_inj starts otherStarts same with ⟨sign, bodyEq⟩
  apply Binary64.eq_of_rank (Bool.eq_iff_iff.mpr sign)
  rw [bodyEq, otherValue] at value
  have zeroRank {number : Binary64} (zero : number.significand = 0) : number.rank = 0 := by
    rw [Binary64.significand_eq_rank, Binary64.significandAt] at zero
    split at zero <;> omega
  split at value
  · next otherZero =>
      split at value
      · next zero => rw [zeroRank zero, zeroRank otherZero]
      · next nonzero => exact absurd value.symm (ShortDecimal.value_ne_zero nonzero)
  · next otherNonzero =>
      split at value
      · exact absurd value (ShortDecimal.value_ne_zero otherNonzero)
      · exact (ShortDecimal.rank_eq_of_value value).symm

/-- Whether a character has a place in written numbers. -/
def IsNumberChar (character : Char) : Prop :=
  character.isDigit = true ∨ character ∈ ['.', 'e', '+', '-']

instance : DecidablePred IsNumberChar :=
  fun _ => inferInstanceAs (Decidable (_ ∨ _))

theorem isNumberChar_of_point {character : Char} (has : character.isDigit ∨ character = '.') :
    IsNumberChar character := by
  rcases has with isDigit | rfl
  · exact .inl isDigit
  · exact .inr (by decide)

theorem mem_scientific (isDigits : IsDigits (head :: tail)) :
    ∀ character ∈ scientific (head :: tail) exponent, IsNumberChar character := by
  intro character characterMem
  rcases List.mem_append.mp characterMem with frontMem | powerMem
  · rcases List.mem_append.mp frontMem with mantissaMem | markMem
    · exact isNumberChar_of_point (mem_mantissa isDigits character mantissaMem)
    · apply Or.inr
      rcases List.mem_cons.mp markMem with rfl | signMem
      · decide
      · rw [List.mem_singleton.mp signMem]
        split <;> decide
  · exact .inl (isDigits_toDigits _ character powerMem)

theorem mem_write (layout : DecimalLayout) (number : Binary64) :
    ∀ character ∈ layout.write number, IsNumberChar character := by
  intro character characterMem
  rcases exists_write_eq layout number with ⟨text, textEq, form⟩
  rw [textEq] at characterMem
  rcases List.mem_append.mp characterMem with signMem | textMem
  · split at signMem
    · rw [List.mem_singleton.mp signMem]
      exact .inr (by decide)
    · simp at signMem
  · rcases form with ⟨-, rfl⟩ | ⟨-, head, tail, exponent, isDigits, -, rfl | rfl⟩
    · apply isNumberChar_of_point
      rcases List.mem_cons.mp textMem with rfl | fractionMem
      · decide
      · split at fractionMem
        · simp only [List.mem_cons, List.not_mem_nil, or_false] at fractionMem
          rcases fractionMem with rfl | rfl <;> decide
        · simp at fractionMem
    · exact isNumberChar_of_point (mem_plain isDigits character textMem)
    · exact mem_scientific isDigits character textMem

/-- A layout that keeps the fraction of whole numbers writes every number with a point or an
exponent. -/
theorem mark_mem_write (layout : DecimalLayout) (keeps : layout.keepsFraction = true)
    (number : Binary64) :
    '.' ∈ layout.write number ∨ 'e' ∈ layout.write number := by
  rcases exists_write_eq layout number with ⟨text, textEq, form⟩
  simp only [textEq, List.mem_append]
  rcases form with ⟨-, rfl⟩ | ⟨-, head, tail, exponent, -, -, rfl | rfl⟩
  · exact .inl (.inr (by simp [keeps]))
  · exact .inl (.inr (point_mem_plain keeps))
  · exact .inr (.inr (by simp [scientific]))

end DecimalLayout

end RowLog
