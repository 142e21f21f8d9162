import RowLog.Decimal.Shortest
import Mathlib.Order.Monotone.Basic
import Mathlib.Tactic.FieldSimp
import Mathlib.Tactic.Ring

/-!
# Numbers and the decimals chosen for them

The intervals of reals that read back as one number follow each other without a gap: the upper end
of one is the lower end of the next, and it belongs to one of the two. So a decimal in the interval
of a number is in that of no other magnitude. The decimal that is chosen for a number is in its
interval, hence it tells the magnitude.
-/

namespace RowLog

namespace Binary64

/-- The place of a number's magnitude among all of them. -/
def rank (number : Binary64) : Nat :=
  number.bits.toNat % 0x8000000000000000

variable (number : Binary64)

theorem exponentBits_eq_rank : exponentBits number.bits = number.rank / 0x10000000000000 := by
  unfold exponentBits rank
  omega

theorem fraction_eq_rank : number.fraction = number.rank % 0x10000000000000 := by
  unfold fraction rank
  omega

/-- The significand of the numbers with a given rank. -/
def significandAt (rank : Nat) : Nat :=
  if rank / 0x10000000000000 = 0 then rank % 0x10000000000000
  else 0x10000000000000 + rank % 0x10000000000000

theorem significand_eq_rank : number.significand = significandAt number.rank := by
  unfold significand significandAt isNormal
  rw [exponentBits_eq_rank, fraction_eq_rank]
  simp only [bne_iff_ne, ne_eq, ite_not]

theorem significandAt_mod_two (rank : Nat) : significandAt rank % 2 = rank % 2 := by
  unfold significandAt
  split <;> omega

variable {number} {other : Binary64}

theorem eq_of_rank (sign : number.isNegative = other.isNegative)
    (same : number.rank = other.rank) : number = other := by
  have bitsEq : number.bits = other.bits := by
    apply UInt64.toNat_inj.mp
    have numberLt := number.bits.toNat_lt
    have otherLt := other.bits.toNat_lt
    unfold isNegative at sign
    unfold rank at same
    rw [decide_eq_decide] at sign
    omega
  cases number
  cases other
  simpa using bitsEq

end Binary64

namespace RoundingInterval

/-- A quarter of the distance from a number with a given rank to the next one, in units. -/
def quarterAt (rank : Nat) : Nat :=
  2 ^ (rank / 0x10000000000000 - 1) * 5 ^ unitPlaces

/-- The lower end of the interval of the numbers with a given rank. -/
def lowerEnd (rank : Nat) : Nat :=
  (4 * Binary64.significandAt rank -
      if rank % 0x10000000000000 = 0 ∧ 1 < rank / 0x10000000000000 then 1 else 2) * quarterAt rank

theorem quarterAt_pos (rank : Nat) : 0 < quarterAt rank :=
  Nat.mul_pos (Nat.pow_pos (by decide)) (Nat.pow_pos (by decide))

/-- An interval begins where the one before it ends. -/
theorem lowerEnd_succ (rank : Nat) :
    lowerEnd (rank + 1) = (4 * Binary64.significandAt rank + 2) * quarterAt rank := by
  unfold lowerEnd Binary64.significandAt quarterAt
  generalize 5 ^ unitPlaces = unit
  by_cases last : rank % 0x10000000000000 = 0xfffffffffffff
  · have exponentEq : (rank + 1) / 0x10000000000000 = rank / 0x10000000000000 + 1 := by omega
    have fractionEq : (rank + 1) % 0x10000000000000 = 0 := by omega
    rw [exponentEq, fractionEq, last]
    cases rank / 0x10000000000000 with
    | zero => simp
    | succ exponent =>
        simp only [Nat.add_eq_zero_iff, one_ne_zero, and_false, if_false, Nat.add_sub_cancel,
          true_and, Nat.lt_add_left_iff_pos, Nat.zero_lt_succ, if_true, pow_succ]
        ring
  · have exponentEq : (rank + 1) / 0x10000000000000 = rank / 0x10000000000000 := by omega
    have fractionEq : (rank + 1) % 0x10000000000000 = rank % 0x10000000000000 + 1 := by omega
    rw [exponentEq, fractionEq]
    simp only [Nat.add_eq_zero_iff, one_ne_zero, and_false, false_and, if_false]
    congr 1
    split <;> omega

theorem lowerEnd_strictMono : StrictMono lowerEnd := by
  apply strictMono_nat_of_lt_succ
  intro rank
  rw [lowerEnd_succ, lowerEnd]
  apply Nat.mul_lt_mul_of_pos_right _ (quarterAt_pos rank)
  split <;> omega

variable {number other : Binary64}

theorem lower_ofNumber (number : Binary64) : (ofNumber number).lower = lowerEnd number.rank := by
  simp only [ofNumber, lowerEnd, quarterAt, Binary64.significand_eq_rank, Binary64.isCloserBelow,
    Binary64.fraction_eq_rank, Binary64.scale, Binary64.exponentBits_eq_rank, Bool.and_eq_true,
    beq_iff_eq, decide_eq_true_eq, Nat.pow_eq]

theorem upper_ofNumber (number : Binary64) :
    (ofNumber number).upper = lowerEnd (number.rank + 1) := by
  simp only [lowerEnd_succ, ofNumber, quarterAt, Binary64.significand_eq_rank, Binary64.scale,
    Binary64.exponentBits_eq_rank, Nat.pow_eq]

theorem value_ofNumber (number : Binary64) :
    (ofNumber number).value = 4 * Binary64.significandAt number.rank * quarterAt number.rank := by
  simp only [ofNumber, quarterAt, Binary64.significand_eq_rank, Binary64.scale,
    Binary64.exponentBits_eq_rank, Nat.pow_eq]

theorem contains_ofNumber_iff {units : Nat} :
    (ofNumber number).contains units = true ↔
      lowerEnd number.rank ≤ units ∧ units ≤ lowerEnd (number.rank + 1) ∧
        (number.rank % 2 = 1 → units ≠ lowerEnd number.rank ∧
          units ≠ lowerEnd (number.rank + 1)) := by
  have closed : (ofNumber number).closed = (number.rank % 2 == 0) := by
    rw [← Binary64.significandAt_mod_two, ← Binary64.significand_eq_rank]
    rfl
  rw [contains, lower_ofNumber, upper_ofNumber, closed]
  split
  · next even =>
      rw [beq_iff_eq] at even
      simp only [Bool.and_eq_true, decide_eq_true_eq]
      omega
  · next odd =>
      rw [beq_iff_eq] at odd
      simp only [Bool.and_eq_true, decide_eq_true_eq]
      omega

/-- What lies in the intervals of two numbers shows that they have one magnitude. -/
theorem rank_eq_of_contains {units : Nat} (inNumber : (ofNumber number).contains units = true)
    (inOther : (ofNumber other).contains units = true) : number.rank = other.rank := by
  have apart {first second : Binary64} (inFirst : (ofNumber first).contains units = true)
      (inSecond : (ofNumber second).contains units = true) : ¬first.rank < second.rank := by
    intro before
    rw [contains_ofNumber_iff] at inFirst inSecond
    have inOrder : lowerEnd (first.rank + 1) ≤ lowerEnd second.rank :=
      lowerEnd_strictMono.monotone before
    -- The intervals meet in one end, and of two numbers in a row one is odd.
    have next : first.rank + 1 = second.rank := lowerEnd_strictMono.injective (by omega)
    rw [next] at inFirst
    omega
  exact Nat.le_antisymm (Nat.le_of_not_lt (apart inOther inNumber))
    (Nat.le_of_not_lt (apart inNumber inOther))

theorem contains_value (number : Binary64) :
    (ofNumber number).contains (ofNumber number).value = true := by
  have parity := Binary64.significandAt_mod_two number.rank
  rw [contains_ofNumber_iff, value_ofNumber, lowerEnd_succ]
  have quarterPos := quarterAt_pos number.rank
  have below (_odd : number.rank % 2 = 1) :
      lowerEnd number.rank < 4 * Binary64.significandAt number.rank * quarterAt number.rank := by
    apply Nat.mul_lt_mul_of_pos_right _ quarterPos
    split <;> omega
  refine ⟨?_, ?_, ?_⟩
  · exact Nat.mul_le_mul_right _ (Nat.sub_le _ _)
  · exact Nat.mul_le_mul_right _ (by omega)
  · intro odd
    refine ⟨(below odd).ne', ?_⟩
    exact (Nat.mul_lt_mul_of_pos_right (by omega) quarterPos).ne

theorem contains_multiple? {interval : RoundingInterval} {tie : TieRule} {step units : Nat}
    (found : interval.multiple? tie step = some units) : interval.contains units = true := by
  simp only [multiple?] at found
  split at found
  · next belowIn aboveIn =>
      rw [Option.some.injEq] at found
      subst found
      repeat' split
      all_goals assumption
  · next belowIn _ =>
      rwa [← Option.some.inj found]
  · next _ aboveIn =>
      rwa [← Option.some.inj found]
  · contradiction

theorem contains_search {interval : RoundingInterval} (tie : TieRule) (places : Nat)
    (inside : interval.contains interval.value = true) :
    interval.contains (interval.search tie places) = true := by
  induction places with
  | zero => exact inside
  | succ places ih =>
      rw [search]
      cases found : interval.multiple? tie (Nat.pow 10 (places + 1)) with
      | none => exact ih
      | some units => exact contains_multiple? found

theorem contains_shortestUnits (tie : TieRule) (number : Binary64) :
    (ofNumber number).contains ((ofNumber number).shortestUnits tie) = true :=
  contains_search tie _ (contains_value number)

end RoundingInterval

namespace ShortDecimal

open RoundingInterval

variable {tie : TieRule} {number other : Binary64}

/-- The number that a decimal denotes. -/
def value (decimal : ShortDecimal) : ℚ :=
  decimal.significand * 10 ^ decimal.exponent

theorem value_ofUnits (units places : Nat) :
    (ofUnits units places).value = units * 10 ^ (-unitPlaces : Int) := by
  induction places generalizing units with
  | zero => rfl
  | succ places ih =>
      rw [ofUnits]
      split
      · next divisible =>
          rw [beq_iff_eq] at divisible
          have units_eq : units = units / 10 * 10 := by omega
          have shorter := ih (units / 10)
          simp only [value] at shorter ⊢
          rw [zpow_add_one₀ (by norm_num), ← mul_assoc, shorter]
          conv_rhs => rw [units_eq]
          push_cast
          ring
      · rfl

/-- The decimal that is chosen for a number tells its magnitude. -/
theorem rank_eq_of_value (same : (ofNumber tie number).value = (ofNumber tie other).value) :
    number.rank = other.rank := by
  have unitsEq : (RoundingInterval.ofNumber number).shortestUnits tie =
      (RoundingInterval.ofNumber other).shortestUnits tie := by
    simp only [ofNumber, value_ofUnits] at same
    have nonzero : (10 : ℚ) ^ (-unitPlaces : Int) ≠ 0 := zpow_ne_zero _ (by norm_num)
    exact_mod_cast mul_right_cancel₀ nonzero same
  apply rank_eq_of_contains (contains_shortestUnits tie number)
  rw [unitsEq]
  exact contains_shortestUnits tie other

theorem value_ne_zero (nonzero : number.significand ≠ 0) : (ofNumber tie number).value ≠ 0 := by
  intro isZero
  have unitsEq : (RoundingInterval.ofNumber number).shortestUnits tie = 0 := by
    simpa [ofNumber, value_ofUnits, unitPlaces] using isZero
  have inside := contains_shortestUnits tie number
  rw [unitsEq, contains_ofNumber_iff] at inside
  have rankEq : number.rank = 0 := by
    by_contra later
    have := lowerEnd_strictMono (Nat.pos_of_ne_zero later)
    omega
  apply nonzero
  rw [Binary64.significand_eq_rank, rankEq]
  rfl

end ShortDecimal

end RowLog
