import Mathlib.Algebra.Order.Field.Rat
import Mathlib.Data.Rat.Lemmas
import Mathlib.Order.Monotone.Odd
import Mathlib.Tactic.FieldSimp
import Mathlib.Tactic.Linarith
import Mathlib.Tactic.Positivity
import Mathlib.Tactic.Ring
import TreeShell.Number.Binary64

/-!
# Rounding to double precision

Rounding never turns two numbers around, and where all 53 bits are there it is off by at most one
part in `2 ^ 53`. Numbers that can be written with 15 digits lie further apart than that, so
rounding keeps them apart.
-/

namespace TreeShell.Binary64

/-! ### Whole quotients -/

/-- A rounded quotient is off by at most a half. -/
theorem roundDiv_bounds (numerator : Nat) {denominator : Nat} (positive : 0 < denominator) :
    2 * (roundDiv numerator denominator * denominator) ≤ 2 * numerator + denominator ∧
      2 * numerator ≤ 2 * (roundDiv numerator denominator * denominator) + denominator := by
  have divided := Nat.div_add_mod' numerator denominator
  have small := Nat.mod_lt numerator positive
  have next : (numerator / denominator + 1) * denominator =
      numerator / denominator * denominator + denominator := Nat.succ_mul _ _
  unfold roundDiv
  dsimp only
  split
  · omega
  · split
    · rw [next]
      omega
    · rcases Nat.mod_two_eq_zero_or_one (numerator / denominator) with even | odd
      · rw [even, Nat.add_zero]
        omega
      · rw [odd, next]
        omega

theorem roundDiv_cases (numerator denominator : Nat) :
    roundDiv numerator denominator = numerator / denominator ∨
      roundDiv numerator denominator = numerator / denominator + 1 := by
  unfold roundDiv
  dsimp only
  split_ifs
  · exact Or.inl rfl
  · exact Or.inr rfl
  · omega

theorem roundDiv_mono {smaller larger : Nat} (le : smaller ≤ larger) (denominator : Nat) :
    roundDiv smaller denominator ≤ roundDiv larger denominator := by
  have quotients : smaller / denominator ≤ larger / denominator := Nat.div_le_div_right le
  rcases Nat.lt_or_eq_of_le quotients with less | same
  · have below := roundDiv_cases smaller denominator
    have above := roundDiv_cases larger denominator
    omega
  · have first := Nat.div_add_mod' smaller denominator
    have second := Nat.div_add_mod' larger denominator
    have remainders : smaller % denominator ≤ larger % denominator := by
      rw [← same] at second
      omega
    unfold roundDiv
    dsimp only
    rw [same]
    split_ifs <;> omega

theorem roundDiv_mul_right (numerator denominator : Nat) {factor : Nat} (positive : 0 < factor) :
    roundDiv (numerator * factor) (denominator * factor) = roundDiv numerator denominator := by
  unfold roundDiv
  dsimp only
  have twice : 2 * (numerator % denominator * factor) = 2 * (numerator % denominator) * factor :=
    (Nat.mul_assoc _ _ _).symm
  rw [Nat.mul_div_mul_right _ _ positive, Nat.mul_mod_mul_right, twice]
  simp only [Nat.mul_lt_mul_right positive]

/-! ### The grid -/

/-- The place of the last of 53 bits in a whole number of units. -/
def lastPlace (units : Nat) : Nat :=
  units.log2 + 1 - 53

/-- A quotient rounded to 53 bits, or to a whole number if it has fewer. -/
def onGrid (numerator denominator : Nat) : Nat :=
  let place := lastPlace (numerator / denominator)
  roundDiv numerator (denominator * 2 ^ place) * 2 ^ place

theorem round_eq_onGrid (numerator denominator : Nat) :
    round numerator denominator = min infinity (onGrid (numerator * one) denominator) := by
  unfold round onGrid lastPlace
  simp only [Nat.shiftLeft_eq]

theorem onGrid_mul_right (numerator denominator : Nat) {factor : Nat} (positive : 0 < factor) :
    onGrid (numerator * factor) (denominator * factor) = onGrid numerator denominator := by
  unfold onGrid
  dsimp only
  rw [Nat.mul_div_mul_right _ _ positive, Nat.mul_right_comm, roundDiv_mul_right _ _ positive]

variable {numerator denominator : Nat}

theorem lastPlace_le (units : Nat) : lastPlace units ≤ units.log2 := by
  unfold lastPlace
  omega

/-- Rounding stays between the powers of two on either side of the quotient. -/
theorem onGrid_le_pow : onGrid numerator denominator ≤
    2 ^ ((numerator / denominator).log2 + 1) := by
  have below : numerator / denominator < 2 ^ ((numerator / denominator).log2 + 1) :=
    Nat.lt_log2_self
  have placed := lastPlace_le (numerator / denominator)
  unfold onGrid
  dsimp only
  generalize lastPlace (numerator / denominator) = place at *
  generalize (numerator / denominator).log2 = bits at *
  have split : 2 ^ (bits + 1) = 2 ^ (bits + 1 - place) * 2 ^ place := by
    rw [← Nat.pow_add, Nat.sub_add_cancel (by omega)]
  have quotient : numerator / (denominator * 2 ^ place) < 2 ^ (bits + 1 - place) := by
    rw [← Nat.div_div_eq_div_mul]
    exact Nat.div_lt_of_lt_mul (by rwa [Nat.mul_comm, ← split])
  have rounded := roundDiv_cases numerator (denominator * 2 ^ place)
  rw [split]
  exact Nat.mul_le_mul_right _ (by omega)

theorem pow_le_onGrid (notZero : numerator / denominator ≠ 0) :
    2 ^ (numerator / denominator).log2 ≤ onGrid numerator denominator := by
  have above := Nat.log2_self_le notZero
  have placed := lastPlace_le (numerator / denominator)
  unfold onGrid
  dsimp only
  generalize lastPlace (numerator / denominator) = place at *
  generalize (numerator / denominator).log2 = bits at *
  have split : 2 ^ bits = 2 ^ (bits - place) * 2 ^ place := by
    rw [← Nat.pow_add, Nat.sub_add_cancel placed]
  have quotient : 2 ^ (bits - place) ≤ numerator / (denominator * 2 ^ place) := by
    rw [← Nat.div_div_eq_div_mul, Nat.le_div_iff_mul_le (Nat.two_pow_pos place), ← split]
    exact above
  have rounded := roundDiv_cases numerator (denominator * 2 ^ place)
  rw [split]
  exact Nat.mul_le_mul_right _ (by omega)

theorem onGrid_mono {smaller larger : Nat} (le : smaller ≤ larger) (denominator : Nat) :
    onGrid smaller denominator ≤ onGrid larger denominator := by
  have quotients : smaller / denominator ≤ larger / denominator := Nat.div_le_div_right le
  rcases Nat.lt_trichotomy (smaller / denominator).log2 (larger / denominator).log2 with
    less | same | greater
  · -- A power of two lies between the two quotients.
    have notZero : larger / denominator ≠ 0 := by
      intro isZero
      rw [isZero] at less
      simp at less
    calc onGrid smaller denominator
        ≤ 2 ^ ((smaller / denominator).log2 + 1) := onGrid_le_pow
      _ ≤ 2 ^ (larger / denominator).log2 := Nat.pow_le_pow_right (by decide) less
      _ ≤ onGrid larger denominator := pow_le_onGrid notZero
  · unfold onGrid lastPlace
    dsimp only
    rw [same]
    exact Nat.mul_le_mul_right _ (roundDiv_mono le _)
  · have notZero : smaller / denominator ≠ 0 := by
      intro isZero
      rw [isZero] at greater
      simp at greater
    have logs : (smaller / denominator).log2 ≤ (larger / denominator).log2 :=
      (Nat.le_log2 ((Nat.pos_of_ne_zero notZero).trans_le quotients).ne').mpr
        ((Nat.log2_self_le notZero).trans quotients)
    omega

/-- In the range of 53 bits and more the error of rounding is at most a part in `2 ^ 53`. -/
theorem onGrid_bounds (positive : 0 < denominator) (large : 2 ^ 52 ≤ numerator / denominator) :
    onGrid numerator denominator * denominator * 2 ^ 53 ≤ (2 ^ 53 + 1) * numerator ∧
      (2 ^ 53 - 1) * numerator ≤ onGrid numerator denominator * denominator * 2 ^ 53 := by
  have notZero : numerator / denominator ≠ 0 := by omega
  have logs : 52 ≤ (numerator / denominator).log2 := (Nat.le_log2 notZero).mpr large
  have above := Nat.log2_self_le notZero
  have whole := Nat.div_mul_le_self numerator denominator
  unfold onGrid lastPlace
  dsimp only
  generalize isBits : (numerator / denominator).log2 = bits at *
  have split : 2 ^ bits = 2 ^ (bits + 1 - 53) * 2 ^ 52 := by
    rw [← Nat.pow_add]
    congr 1
    omega
  have bounds := roundDiv_bounds numerator
    (Nat.mul_pos positive (Nat.two_pow_pos (bits + 1 - 53)))
  generalize roundDiv numerator (denominator * 2 ^ (bits + 1 - 53)) = rounded at *
  generalize 2 ^ (bits + 1 - 53) = unit at *
  have unitSmall : denominator * unit * 2 ^ 52 ≤ numerator := by
    calc denominator * unit * 2 ^ 52 = (unit * 2 ^ 52) * denominator := by ring
      _ ≤ numerator / denominator * denominator :=
          Nat.mul_le_mul_right _ (by rw [← split]; exact above)
      _ ≤ numerator := whole
  have regroup : rounded * unit * denominator = rounded * (denominator * unit) := by ring
  rw [regroup]
  omega

theorem onGrid_lt_onGrid {smaller larger : Nat} (positive : 0 < denominator)
    (large : 2 ^ 52 ≤ smaller / denominator)
    (apart : (10 ^ 15 + 1) * smaller ≤ 10 ^ 15 * larger) :
    onGrid smaller denominator < onGrid larger denominator := by
  have notZero : 0 < smaller := by
    have whole := (Nat.le_div_iff_mul_le positive).mp large
    have someUnits := Nat.mul_pos (Nat.two_pow_pos 52) positive
    omega
  have wider : 2 ^ 52 ≤ larger / denominator :=
    large.trans (Nat.div_le_div_right (by omega))
  have above := (onGrid_bounds positive large).1
  have below := (onGrid_bounds positive wider).2
  by_contra notLess
  have reversed : onGrid larger denominator * denominator * 2 ^ 53 ≤
      onGrid smaller denominator * denominator * 2 ^ 53 :=
    Nat.mul_le_mul_right _ (Nat.mul_le_mul_right _ (Nat.le_of_not_lt notLess))
  omega

/-! ### Quotients -/

section

variable {numerator' denominator' : Nat} (positive : 0 < denominator)
  (positive' : 0 < denominator')

include positive positive'

theorem round_le_round (le : numerator * denominator' ≤ numerator' * denominator) :
    round numerator denominator ≤ round numerator' denominator' := by
  rw [round_eq_onGrid, round_eq_onGrid, ← onGrid_mul_right _ denominator positive',
    ← onGrid_mul_right _ denominator' positive, Nat.mul_comm denominator' denominator,
    Nat.mul_right_comm, Nat.mul_right_comm numerator']
  exact min_le_min le_rfl (onGrid_mono (Nat.mul_le_mul_right one le) _)

theorem round_eq_round (same : numerator * denominator' = numerator' * denominator) :
    round numerator denominator = round numerator' denominator' :=
  Nat.le_antisymm (round_le_round positive positive' same.le)
    (round_le_round positive' positive same.ge)

end

/-! ### Numbers -/

/-- The double nearest to a number, in units. -/
def nearest (value : ℚ) : Int :=
  value.num.sign * round value.num.natAbs value.den

theorem nearest_neg (value : ℚ) : nearest (-value) = -nearest value := by
  simp [nearest]

theorem round_zero (denominator : Nat) : round 0 denominator = 0 := by
  simp [round, roundDiv]

@[simp]
theorem nearest_zero : nearest 0 = 0 := rfl

theorem nearest_div (numerator : Nat) (positive : 0 < denominator) :
    nearest (numerator / denominator) = round numerator denominator := by
  have denominatorNe : (denominator : ℚ) ≠ 0 := by exact_mod_cast positive.ne'
  generalize isValue : (numerator / denominator : ℚ) = value
  have nonneg : 0 ≤ value.num := by
    rw [Rat.num_nonneg, ← isValue]
    positivity
  have crossed : value.num * denominator = numerator * value.den := by
    have quotients : (value.num / value.den : ℚ) = numerator / denominator := by
      rw [Rat.num_div_den, isValue]
    have denNe : (value.den : ℚ) ≠ 0 := by exact_mod_cast value.den_nz
    rw [div_eq_div_iff denNe denominatorNe] at quotients
    exact_mod_cast quotients
  obtain ⟨magnitude, isMagnitude⟩ := Int.eq_ofNat_of_zero_le nonneg
  unfold nearest
  rw [isMagnitude] at crossed ⊢
  have same : round magnitude value.den = round numerator denominator :=
    round_eq_round value.den_pos positive (by exact_mod_cast crossed)
  rw [Int.natAbs_natCast, same]
  rcases Nat.eq_zero_or_pos magnitude with rfl | someUnits
  · rw [← same, round_zero]
    rfl
  · rw [Int.sign_natCast_of_ne_zero someUnits.ne', one_mul]

theorem exists_eq_div {value : ℚ} (nonneg : 0 ≤ value) :
    ∃ numerator denominator : Nat, 0 < denominator ∧ value = numerator / denominator := by
  refine ⟨value.num.natAbs, value.den, value.den_pos, ?_⟩
  have magnitude : ((value.num.natAbs : Int) : ℚ) = value.num := by
    rw [Int.natAbs_of_nonneg (Rat.num_nonneg.mpr nonneg)]
  rw [← Int.cast_natCast, magnitude, Rat.num_div_den]

/-- Rounding never turns two numbers around. -/
theorem nearest_le_nearest {smaller larger : ℚ} (le : smaller ≤ larger) :
    nearest smaller ≤ nearest larger := by
  refine monotone_of_odd_of_monotoneOn_nonneg nearest_neg ?_ le
  intro smaller nonneg larger nonneg' le
  obtain ⟨numerator, denominator, positive, rfl⟩ := exists_eq_div nonneg
  obtain ⟨numerator', denominator', positive', rfl⟩ := exists_eq_div nonneg'
  rw [nearest_div _ positive, nearest_div _ positive']
  have quotients := (div_le_div_iff₀ (by exact_mod_cast positive)
    (by exact_mod_cast positive')).mp le
  exact_mod_cast round_le_round positive positive' (by exact_mod_cast quotients)

/-- A number that can be written with that many significant digits. -/
def HasDigits (count : Nat) (value : ℚ) : Prop :=
  ∃ (digits : Nat) (exponent : Int), digits < 10 ^ count ∧ |value| = digits * 10 ^ exponent

/-- Zero, and what lies between the least and the greatest double of full precision. -/
def Ordinary (value : ℚ) : Prop :=
  value = 0 ∨ 1 / 2 ^ 1022 ≤ |value| ∧ |value| ≤ (2 ^ 53 - 1) * 2 ^ 971

theorem hasDigits_zero (count : Nat) : HasDigits count 0 :=
  ⟨0, 0, by positivity, by simp⟩

variable {smaller larger : ℚ} {count : Nat}

theorem HasDigits.neg (hasDigits : HasDigits count smaller) : HasDigits count (-smaller) := by
  simpa [HasDigits] using hasDigits

theorem Ordinary.neg (ordinary : Ordinary smaller) : Ordinary (-smaller) := by
  simpa [Ordinary] using ordinary

theorem ordinary_of_one_le {value : ℚ} (atLeast : 1 ≤ |value|) (atMost : |value| ≤ 2 ^ 53 - 1) :
    Ordinary value := by
  refine Or.inr ⟨?_, ?_⟩
  · refine le_trans ?_ atLeast
    rw [div_le_one (by positivity)]
    exact one_le_pow₀ (by norm_num)
  · refine atMost.trans (le_mul_of_one_le_right (by norm_num) ?_)
    exact one_le_pow₀ (by norm_num)

/-- Two numbers are multiples of the lower of their powers of ten. -/
theorem HasDigits.exists_multiples (hasDigits : HasDigits count smaller)
    (hasDigits' : HasDigits count larger) :
    ∃ (multiple multiple' : Nat) (power : ℚ), 0 < power ∧
      (multiple < 10 ^ count ∨ multiple' < 10 ^ count) ∧
      |smaller| = multiple * power ∧ |larger| = multiple' * power := by
  obtain ⟨digits, exponent, few, isSmaller⟩ := hasDigits
  obtain ⟨digits', exponent', few', isLarger⟩ := hasDigits'
  have powerPositive (exponent : Int) : (0 : ℚ) < 10 ^ exponent := zpow_pos (by norm_num) exponent
  rcases le_total exponent exponent' with le | le
  · obtain ⟨shift, rfl⟩ := Int.le.dest le
    refine ⟨digits, digits' * 10 ^ shift, 10 ^ exponent, powerPositive _, Or.inl few,
      isSmaller, ?_⟩
    rw [isLarger, zpow_add₀ (by norm_num), zpow_natCast]
    push_cast
    ring
  · obtain ⟨shift, rfl⟩ := Int.le.dest le
    refine ⟨digits * 10 ^ shift, digits', 10 ^ exponent', powerPositive _, Or.inr few', ?_,
      isLarger⟩
    rw [isSmaller, zpow_add₀ (by norm_num), zpow_natCast]
    push_cast
    ring

/-- Between numbers of so many digits there is a gap of one part in a power of ten. -/
theorem HasDigits.apart (hasDigits : HasDigits count smaller) (hasDigits' : HasDigits count larger)
    (nonneg : 0 ≤ smaller) (less : smaller < larger) :
    (10 ^ count + 1) * smaller ≤ 10 ^ count * larger := by
  obtain ⟨multiple, multiple', power, powerPositive, fewer, isSmaller, isLarger⟩ :=
    hasDigits.exists_multiples hasDigits'
  rw [abs_of_nonneg nonneg] at isSmaller
  rw [abs_of_nonneg (nonneg.trans less.le)] at isLarger
  rw [isSmaller, isLarger] at less ⊢
  have next : multiple + 1 ≤ multiple' := by
    have lower := lt_of_mul_lt_mul_right less powerPositive.le
    exact_mod_cast lower
  have small : multiple ≤ 10 ^ count := by omega
  have step : (10 ^ count + 1) * multiple ≤ 10 ^ count * multiple' :=
    calc (10 ^ count + 1) * multiple
        = 10 ^ count * multiple + multiple := Nat.succ_mul _ _
      _ ≤ 10 ^ count * multiple + 10 ^ count := Nat.add_le_add_left small _
      _ = 10 ^ count * (multiple + 1) := (Nat.mul_succ _ _).symm
      _ ≤ 10 ^ count * multiple' := Nat.mul_le_mul_left _ next
  have cast : ((10 : ℚ) ^ count + 1) * multiple ≤ 10 ^ count * multiple' := by
    exact_mod_cast step
  calc ((10 : ℚ) ^ count + 1) * (multiple * power)
      = (10 ^ count + 1) * multiple * power := (mul_assoc _ _ _).symm
    _ ≤ 10 ^ count * multiple' * power := mul_le_mul_of_nonneg_right cast powerPositive.le
    _ = 10 ^ count * (multiple' * power) := mul_assoc _ _ _

theorem one_eq : one = 2 ^ 1022 * 2 ^ 52 := by decide +kernel

theorem infinity_eq : infinity = one * (2 ^ 971 * 2 ^ 53) := by decide +kernel

section

variable {numerator denominator : Nat} (positive : 0 < denominator)

include positive

theorem le_mul_pow_of_le_div {exponent : Nat}
    (atLeast : (1 / 2 ^ exponent : ℚ) ≤ numerator / denominator) :
    denominator ≤ numerator * 2 ^ exponent := by
  rw [div_le_div_iff₀ (by positivity) (by exact_mod_cast positive), one_mul] at atLeast
  exact_mod_cast atLeast

theorem le_mul_of_div_le (bound : Nat) {exponent : Nat}
    (atMost : (numerator / denominator : ℚ) ≤ (bound - 1) * 2 ^ exponent) :
    numerator + 2 ^ exponent * denominator ≤ bound * 2 ^ exponent * denominator := by
  rw [div_le_iff₀ (by exact_mod_cast positive)] at atMost
  have moved : (numerator + 2 ^ exponent * denominator : ℚ) ≤
      bound * 2 ^ exponent * denominator := by linarith
  exact_mod_cast moved

/-- What is at most the greatest double is not rounded to infinity. -/
theorem onGrid_lt_infinity (large : 2 ^ 52 ≤ numerator * one / denominator)
    (atMost : numerator + 2 ^ 971 * denominator ≤ 2 ^ 53 * 2 ^ 971 * denominator) :
    onGrid (numerator * one) denominator < infinity := by
  have above := (onGrid_bounds positive large).1
  have onePositive : 0 < one := by decide +kernel
  have notZero : numerator ≠ 0 := by
    rintro rfl
    simp at large
  rw [infinity_eq]
  generalize 2 ^ 971 = power at *
  by_contra notLess
  have crossed : 2 ^ 53 * 2 ^ 53 * (power * denominator) * one ≤ (2 ^ 53 + 1) * numerator * one :=
    calc 2 ^ 53 * 2 ^ 53 * (power * denominator) * one
        = one * (power * 2 ^ 53) * denominator * 2 ^ 53 := by ring
      _ ≤ onGrid (numerator * one) denominator * denominator * 2 ^ 53 :=
          Nat.mul_le_mul_right _ (Nat.mul_le_mul_right _ (Nat.le_of_not_lt notLess))
      _ ≤ (2 ^ 53 + 1) * (numerator * one) := above
      _ = (2 ^ 53 + 1) * numerator * one := (Nat.mul_assoc _ _ _).symm
  have units := Nat.le_of_mul_le_mul_right crossed onePositive
  rw [Nat.mul_assoc] at atMost
  omega

/-- The units of an ordinary number are rounded at the 53rd bit, and to less than infinity. -/
theorem onGrid_of_ordinary (notZero : numerator ≠ 0)
    (ordinary : Ordinary (numerator / denominator)) :
    2 ^ 52 ≤ numerator * one / denominator ∧ onGrid (numerator * one) denominator < infinity := by
  have positive' : (0 : ℚ) < denominator := by exact_mod_cast positive
  have nonneg : (0 : ℚ) ≤ numerator / denominator := by positivity
  rcases ordinary with isZero | ⟨atLeast, atMost⟩
  · rcases div_eq_zero_iff.mp isZero with isZero | isZero
    · exact absurd (by exact_mod_cast isZero) notZero
    · exact absurd isZero positive'.ne'
  · rw [abs_of_nonneg nonneg] at atLeast atMost
    have lower := le_mul_pow_of_le_div positive atLeast
    have upper := le_mul_of_div_le positive (2 ^ 53) (by push_cast; exact atMost)
    have large : 2 ^ 52 ≤ numerator * one / denominator := by
      rw [Nat.le_div_iff_mul_le positive, one_eq, ← Nat.mul_assoc, Nat.mul_comm (2 ^ 52)]
      exact Nat.mul_le_mul_right _ lower
    exact ⟨large, onGrid_lt_infinity positive large upper⟩

end

/-- Ordinary numbers of at most 15 digits are told apart. -/
theorem nearest_lt_of_nonneg (nonneg : 0 ≤ smaller) (less : smaller < larger)
    (ordinary : Ordinary smaller) (ordinary' : Ordinary larger)
    (hasDigits : HasDigits 15 smaller) (hasDigits' : HasDigits 15 larger) :
    nearest smaller < nearest larger := by
  have gap := hasDigits.apart hasDigits' nonneg less
  have someLarger : larger ≠ 0 := (nonneg.trans_lt less).ne'
  obtain ⟨numerator, denominator, positive, rfl⟩ := exists_eq_div nonneg
  obtain ⟨numerator', denominator', positive', rfl⟩ := exists_eq_div (nonneg.trans less.le)
  have notZero' : numerator' ≠ 0 := by
    rintro rfl
    simp at someLarger
  obtain ⟨large', -⟩ := onGrid_of_ordinary positive' notZero' ordinary'
  rw [nearest_div _ positive, nearest_div _ positive', Nat.cast_lt, round_eq_onGrid,
    round_eq_onGrid]
  by_cases isZero : numerator = 0
  · have someUnits : 0 < onGrid (numerator' * one) denominator' :=
      (Nat.two_pow_pos _).trans_le (pow_le_onGrid (by omega))
    have infinite : 0 < infinity := by decide +kernel
    have rounded : onGrid (numerator * one) denominator = 0 := by
      simp [isZero, onGrid, roundDiv]
    rw [rounded, Nat.min_zero]
    exact lt_min infinite someUnits
  · obtain ⟨large, finite⟩ := onGrid_of_ordinary positive isZero ordinary
    have crossed : (10 ^ 15 + 1) * (numerator * denominator') ≤
        10 ^ 15 * (numerator' * denominator) := by
      rw [mul_div_assoc', mul_div_assoc', div_le_div_iff₀ (by exact_mod_cast positive)
        (by exact_mod_cast positive'), mul_assoc, mul_assoc] at gap
      exact_mod_cast gap
    have apart : onGrid (numerator * one) denominator < onGrid (numerator' * one) denominator' := by
      rw [← onGrid_mul_right _ denominator positive', ← onGrid_mul_right _ denominator' positive,
        Nat.mul_comm denominator' denominator]
      refine onGrid_lt_onGrid (Nat.mul_pos positive positive') ?_ ?_
      · rwa [Nat.mul_div_mul_right _ _ positive']
      · rw [Nat.mul_right_comm, Nat.mul_right_comm numerator']
        calc (10 ^ 15 + 1) * (numerator * denominator' * one)
            = (10 ^ 15 + 1) * (numerator * denominator') * one := (Nat.mul_assoc _ _ _).symm
          _ ≤ 10 ^ 15 * (numerator' * denominator) * one := Nat.mul_le_mul_right one crossed
          _ = 10 ^ 15 * (numerator' * denominator * one) := Nat.mul_assoc _ _ _
    rw [Nat.min_eq_right finite.le]
    exact lt_min finite apart

theorem nearest_lt_nearest (less : smaller < larger) (ordinary : Ordinary smaller)
    (ordinary' : Ordinary larger) (hasDigits : HasDigits 15 smaller)
    (hasDigits' : HasDigits 15 larger) : nearest smaller < nearest larger := by
  rcases le_or_gt 0 smaller with nonneg | negative
  · exact nearest_lt_of_nonneg nonneg less ordinary ordinary' hasDigits hasDigits'
  · rcases le_or_gt larger 0 with nonpos | positive
    · have turned := nearest_lt_of_nonneg (neg_nonneg.mpr nonpos) (neg_lt_neg less) ordinary'.neg
        ordinary.neg hasDigits'.neg hasDigits.neg
      rw [nearest_neg, nearest_neg] at turned
      exact neg_lt_neg_iff.mp turned
    · have belowZero := nearest_lt_of_nonneg le_rfl (neg_pos.mpr negative) (Or.inl rfl) ordinary.neg
        (hasDigits_zero 15) hasDigits.neg
      have aboveZero := nearest_le_nearest positive.le
      rw [nearest_zero, nearest_neg] at belowZero
      rw [nearest_zero] at aboveZero
      omega

section

variable (isOne : Ordinary smaller ∧ HasDigits 15 smaller)
  (isOne' : Ordinary larger ∧ HasDigits 15 larger)

include isOne isOne'

/-- Rounding keeps the order of ordinary numbers of at most 15 digits. -/
theorem nearest_lt_nearest_iff : nearest smaller < nearest larger ↔ smaller < larger := by
  constructor
  · intro less
    by_contra notLess
    have le := nearest_le_nearest (not_lt.mp notLess)
    omega
  · intro less
    exact nearest_lt_nearest less isOne.1 isOne'.1 isOne.2 isOne'.2

theorem nearest_eq_nearest_iff : nearest smaller = nearest larger ↔ smaller = larger := by
  constructor
  · intro same
    rcases lt_trichotomy smaller larger with less | equal | greater
    · have apart := (nearest_lt_nearest_iff isOne isOne').mpr less
      omega
    · exact equal
    · have apart := (nearest_lt_nearest_iff isOne' isOne).mpr greater
      omega
  · intro equal
    rw [equal]

end

end TreeShell.Binary64
