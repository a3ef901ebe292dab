import TreeShell.Proofs.Instants
import TreeShell.Proofs.LeadingNumbers
import TreeShell.Text.Size

/-!
# Sizes as people are shown them

A size is shown in the greatest unit that it fills, as a number of tenths of it. The unit is chosen
before the quotient is rounded. So a size that lacks no more than half a tenth of its unit to the
next one is shown as 1024 of its unit, and not as 1 of the next. The numbers of all other sizes
below 1024 of the second greatest unit are smaller than 1024.
-/

namespace TreeShell

namespace WrittenNumber

variable {first second : WrittenNumber}

/-! ### What is written determines the number -/

theorem minus_notMem_unsigned (number : WrittenNumber) : '-' ∉ number.unsigned := by
  intro member
  have isNumeral := isNumeralChar_of_mem member
  revert isNumeral
  decide

theorem unsigned_eq_of_text_eq (same : first.text = second.text) :
    first.negative = second.negative ∧ first.unsigned = second.unsigned := by
  have noMinus := first.minus_notMem_unsigned
  have noMinus' := second.minus_notMem_unsigned
  unfold text at same
  cases isNegative : first.negative <;> cases isNegative' : second.negative <;>
    simp only [isNegative, isNegative', if_true, Bool.false_eq_true, if_false] at same
  · exact ⟨rfl, same⟩
  · simp [same] at noMinus
  · simp [← same] at noMinus'
  · exact ⟨rfl, List.tail_eq_of_cons_eq same⟩

theorem cut_unsigned (number : WrittenNumber) :
    number.unsigned.takeWhile (· != '.') = number.whole ∧
      number.unsigned.dropWhile (· != '.') = number.fraction.elim [] ('.' :: ·) := by
  have allBefore : ∀ c ∈ number.whole, (c != '.') = true := by
    intro c member
    rw [bne_iff_ne]
    rintro rfl
    exact number.point_notMem_whole member
  unfold unsigned
  rw [List.takeWhile_append_of_pos allBefore, List.dropWhile_append_of_pos allBefore]
  cases number.fraction <;> simp

theorem value_eq_of_text_eq (same : first.text = second.text) : first.value = second.value := by
  obtain ⟨sameSign, sameUnsigned⟩ := unsigned_eq_of_text_eq same
  have sameWhole : first.whole = second.whole := by
    rw [← first.cut_unsigned.1, sameUnsigned, second.cut_unsigned.1]
  have sameRest : first.fraction.elim [] ('.' :: ·) = second.fraction.elim [] ('.' :: ·) := by
    rw [← first.cut_unsigned.2, sameUnsigned, second.cut_unsigned.2]
  have sameFraction : first.fraction.getD [] = second.fraction.getD [] := by
    cases isFraction : first.fraction <;> cases isFraction' : second.fraction <;>
      simp_all
  unfold value digits places
  rw [sameSign, sameWhole, sameFraction]

/-- A line begins with one number. -/
theorem Begins.value_eq {line : String} {rest rest' : List Char} (begins : first.Begins line rest)
    (begins' : second.Begins line rest') : first.value = second.value := by
  have isFront : first.text <+: Text.trimStart line.toList := ⟨rest, begins.isFront.symm⟩
  have isFront' : second.text <+: Text.trimStart line.toList := ⟨rest', begins'.isFront.symm⟩
  have sameLength : first.text.length = second.text.length :=
    Nat.le_antisymm (begins'.longest first isFront) (begins.longest second isFront')
  have inSecond := List.prefix_of_prefix_length_le isFront isFront' sameLength.le
  exact value_eq_of_text_eq (inSecond.eq_of_length sameLength)

theorem trimStart_text (number : WrittenNumber) (rest : List Char) :
    Text.trimStart (number.text ++ rest) = number.text ++ rest := by
  have noneBlank : ∀ c ∈ number.unsigned, Text.isBlank c = false := by
    intro c member
    rcases isNumeralChar_iff.mp (isNumeralChar_of_mem member) with isDigit | rfl
    · exact Text.isBlank_of_isDigit isDigit
    · decide
  obtain ⟨first, more, starts⟩ := List.exists_cons_of_ne_nil number.text_ne_nil
  have isFirst : first ∈ number.text := starts ▸ List.mem_cons_self
  have notBlank : Text.isBlank first = false := by
    unfold text at isFirst
    split at isFirst
    · rcases List.mem_cons.mp isFirst with rfl | later
      · decide
      · exact noneBlank first later
    · exact noneBlank first isFirst
  rw [starts, List.cons_append]
  exact Instant.trimStart_cons notBlank _

/-! ### Tenths -/

theorem isDigit_of_mem_toDigits {number : Nat} {c : Char} (member : c ∈ Nat.toDigits 10 number) :
    c.isDigit = true :=
  Nat.isDigit_of_mem_toDigits (by decide) (by decide) member

/-- Tenths as they are written: without a fraction if there are only whole ones. -/
def ofTenths (tenths : Nat) : WrittenNumber where
  negative := false
  whole := Nat.toDigits 10 (tenths / 10)
  fraction := if tenths % 10 = 0 then none else some (Nat.toDigits 10 (tenths % 10))
  areDigits c member := by
    rcases List.mem_append.mp member with inWhole | inFraction
    · exact isDigit_of_mem_toDigits inWhole
    · split at inFraction
      · cases inFraction
      · exact isDigit_of_mem_toDigits inFraction
  someDigit := List.append_ne_nil_of_left_ne_nil Nat.toDigits_ne_nil _

theorem text_ofTenths (tenths : Nat) :
    (ofTenths tenths).text = (Text.tenthsText tenths).toList := by
  unfold text unsigned ofTenths Text.tenthsText
  split <;> simp [Nat.toString_eq_repr, Nat.toList_repr]

theorem value_ofTenths (tenths : Nat) : (ofTenths tenths).value = tenths / 10 := by
  by_cases isWhole : tenths % 10 = 0
  · obtain ⟨whole, rfl⟩ := Nat.dvd_of_mod_eq_zero isWhole
    have isDigits : Nat.ofDigitChars 10 (ofTenths (10 * whole)).digits 0 = whole := by
      simp [digits, ofTenths, Nat.ofDigitChars_ten_toDigits]
    have noPlaces : (ofTenths (10 * whole)).places = 0 := by simp [places, ofTenths]
    rw [value_eq _ _ _ isDigits noPlaces]
    simp [ofTenths]
  · have oneDigit : Nat.toDigits 10 (tenths % 10) = [Nat.digitChar (tenths % 10)] :=
      Nat.toDigits_of_lt_base (Nat.mod_lt _ (by decide))
    have isDigit : (Nat.digitChar (tenths % 10)).toNat = 48 + tenths % 10 :=
      Nat.toNat_digitChar_of_lt_ten (Nat.mod_lt _ (by decide))
    have isDigits : Nat.ofDigitChars 10 (ofTenths tenths).digits 0 = tenths := by
      simp [digits, ofTenths, isWhole, oneDigit, Nat.ofDigitChars_append, Nat.ofDigitChars_cons,
        Nat.ofDigitChars_ten_toDigits, isDigit]
      omega
    have onePlace : (ofTenths tenths).places = 1 := by simp [places, ofTenths, isWhole, oneDigit]
    rw [value_eq _ _ _ isDigits onePlace]
    simp [ofTenths]

end WrittenNumber

namespace Text

/-! ### Sizes -/

/-- The tenths that a size is shown as. -/
def shownTenths (size : Nat) : Nat :=
  if size < 1024 then 10 * size else roundedTenths size (sizeUnit size).1

/-- The letter behind the number of a size; small sizes have none. -/
def shownLetter (size : Nat) : String :=
  if size < 1024 then "" else (sizeUnit size).2

theorem humanSize_eq (size : Nat) :
    humanSize size = tenthsText (shownTenths size) ++ shownLetter size := by
  unfold humanSize shownTenths shownLetter
  split
  · simp [tenthsText]
  · rfl

/-- What stands behind the number does not go on with it. -/
theorem stops_shownLetter (size : Nat) : Stops (shownLetter size).toList ∧
    (shownLetter size).toList.head? ≠ some '.' := by
  unfold shownLetter sizeUnit
  split
  next => exact ⟨stops_nil, by decide⟩
  next =>
    split
    next => exact ⟨stops_cons rfl [], by decide⟩
    next =>
      split
      next => exact ⟨stops_cons rfl [], by decide⟩
      next => exact ⟨stops_cons rfl [], by decide⟩

/-- A size is shown by a number, with the letter of its unit behind it. -/
theorem begins_humanSize (size : Nat) : (WrittenNumber.ofTenths (shownTenths size)).Begins
    (humanSize size) (shownLetter size).toList := by
  obtain ⟨stops, noPoint⟩ := stops_shownLetter size
  rw [WrittenNumber.begins_iff]
  refine ⟨?_, stops, fun _ => noPoint⟩
  rw [humanSize_eq, String.toList_append, ← WrittenNumber.text_ofTenths,
    WrittenNumber.trimStart_text]

/-- A quotient in tenths makes at least a whole number if no more than half a tenth is missing. -/
theorem le_roundedTenths_iff {size unit : Nat} (positive : 0 < unit) (whole : Nat) :
    10 * whole ≤ roundedTenths size unit ↔ 20 * (whole * unit) ≤ 20 * size + unit := by
  rw [roundedTenths, Nat.le_div_iff_mul_le (by omega)]
  have same : 10 * whole * (2 * unit) = 20 * (whole * unit) := by ring
  rw [same]

/-- A size is less than 1024 of a unit, but lacks at most half a tenth of the unit. -/
def RoundsUp (size unit : Nat) : Prop :=
  size < 1024 * unit ∧ 20 * (1024 * unit) ≤ 20 * size + unit

theorem RoundsUp.roundedTenths_eq {size unit : Nat} (roundsUp : RoundsUp size unit) :
    roundedTenths size unit = 10 * 1024 := by
  obtain ⟨below, near⟩ := roundsUp
  have positive : 0 < unit := by omega
  have notLess := (le_roundedTenths_iff positive 1024).mpr near
  have notMore : ¬ 10 * 1024 + 1 ≤ roundedTenths size unit := by
    rw [roundedTenths, Nat.le_div_iff_mul_le (by omega)]
    omega
  omega

variable {size : Nat}

/-- A size that is rounded up is shown as 1024 of its own unit. -/
theorem RoundsUp.humanSize_of_unit {unit : Nat} {letter : String} (roundsUp : RoundsUp size unit)
    (large : ¬ size < 1024) (isUnit : sizeUnit size = (unit, letter)) :
    humanSize size = "1024" ++ letter := by
  have tenths := roundsUp.roundedTenths_eq
  rw [humanSize, if_neg large, isUnit]
  dsimp only
  rw [tenths]
  rfl

theorem RoundsUp.humanSize_kilobytes (roundsUp : RoundsUp size 1024) :
    humanSize size = "1024K" := by
  have large : ¬ size < 1024 := by
    unfold RoundsUp at roundsUp
    omega
  exact roundsUp.humanSize_of_unit large (if_pos roundsUp.1)

theorem RoundsUp.humanSize_megabytes (roundsUp : RoundsUp size (1024 * 1024)) :
    humanSize size = "1024M" := by
  have large : ¬ size < 1024 ∧ ¬ size < 1024 * 1024 := by
    unfold RoundsUp at roundsUp
    omega
  have isUnit : sizeUnit size = (1024 * 1024, "M") := by
    rw [sizeUnit, if_neg large.2, if_pos roundsUp.1]
  exact roundsUp.humanSize_of_unit large.1 isUnit

theorem shownTenths_lt_iff (bounded : size < 1024 ^ 3) : shownTenths size < 10 * 1024 ↔
    ¬ RoundsUp size 1024 ∧ ¬ RoundsUp size (1024 * 1024) := by
  unfold shownTenths sizeUnit RoundsUp
  by_cases small : size < 1024
  · rw [if_pos small]
    omega
  · rw [if_neg small]
    by_cases kilobytes : size < 1024 * 1024
    · rw [if_pos kilobytes, ← Nat.not_le, le_roundedTenths_iff (by decide)]
      omega
    · rw [if_neg kilobytes, if_pos (by omega), ← Nat.not_le, le_roundedTenths_iff (by decide)]
      omega

/-- A size below 1024 of the second greatest unit is shown by one number. It is smaller than 1024
unless the size lacks no more than half a tenth of its unit to the next one: then it is 1024, and it
is followed by the letter of the smaller unit. -/
theorem humanSize_lt_iff (bounded : size < 1024 ^ 3) :
    (∃ (number : WrittenNumber) (rest : List Char), number.Begins (humanSize size) rest) ∧
    (∀ (number : WrittenNumber) (rest : List Char), number.Begins (humanSize size) rest →
      (number.value < 1024 ↔ ¬ RoundsUp size 1024 ∧ ¬ RoundsUp size (1024 * 1024))) ∧
    (RoundsUp size 1024 → humanSize size = "1024K") ∧
    (RoundsUp size (1024 * 1024) → humanSize size = "1024M") := by
  have shown := begins_humanSize size
  refine ⟨⟨_, _, shown⟩, ?_, RoundsUp.humanSize_kilobytes, RoundsUp.humanSize_megabytes⟩
  intro number rest begins
  rw [begins.value_eq shown, WrittenNumber.value_ofTenths, ← shownTenths_lt_iff bounded,
    div_lt_iff₀ (by norm_num)]
  norm_cast

/-- One byte makes the difference. -/
theorem humanSize_lt_iff_nearest :
    1048524 < 1024 ^ 3 ∧ humanSize 1048524 = "1023.9K" ∧ humanSize 1048525 = "1024K" ∧
      ∀ (number : WrittenNumber) (rest : List Char), number.Begins (humanSize 1048524) rest →
        number.value < 1024 := by
  have bounded : 1048524 < 1024 ^ 3 := by decide
  refine ⟨bounded, by decide +kernel, by decide +kernel, ?_⟩
  intro number rest begins
  refine ((humanSize_lt_iff bounded).2.1 number rest begins).mpr ?_
  unfold RoundsUp
  decide

/-- A size that is rounded up to the next unit is not shown in it. -/
theorem not_forall_humanSize_lt : ¬ ∀ size < 1024 ^ 3, ∀ (number : WrittenNumber)
    (rest : List Char), number.Begins (humanSize size) rest → number.value < 1024 := by
  intro always
  let number : WrittenNumber := ⟨false, ['1', '0', '2', '4'], none, by simp, by decide⟩
  have begins : number.Begins (humanSize 1048575) "K".toList :=
    WrittenNumber.begins_iff.mpr ⟨by decide +kernel, stops_cons rfl _, by decide⟩
  have isValue : number.value = 1024 := by
    rw [number.value_eq 1024 0 (by decide) (by decide), if_neg (by decide)]
    norm_num
  have tooSmall := always 1048575 (by decide) number _ begins
  rw [isValue] at tooSmall
  exact lt_irrefl _ tooSmall

end Text

end TreeShell
