import TreeShell.Text.Blank
import TreeShell.Text.Numeral

/-!
# Decimal digits

A numeral, with zeros before it or without, consists of digits and denotes its number. Whoever reads
digits one by one therefore gets the number back, as long as what follows is no digit.
-/

namespace TreeShell.Text

theorem digit?_of_isDigit {c : Char} (isDigit : c.isDigit = true) :
    digit? c = some (c.toNat - '0'.toNat) := by
  unfold Char.isDigit at isDigit
  rw [Bool.and_eq_true, decide_eq_true_eq, decide_eq_true_eq] at isDigit
  exact if_pos isDigit

theorem digit?_of_not_isDigit {c : Char} (noDigit : c.isDigit = false) : digit? c = none := by
  unfold Char.isDigit at noDigit
  refine if_neg ?_
  rintro ⟨fromZero, toNine⟩
  have isDigit : (decide (c.val ≥ '0'.val) && decide (c.val ≤ '9'.val)) = true := by
    rw [Bool.and_eq_true, decide_eq_true_eq, decide_eq_true_eq]
    exact ⟨fromZero, toNine⟩
  rw [isDigit] at noDigit
  cases noDigit

theorem isSome_digit? (c : Char) : (digit? c).isSome = c.isDigit := by
  cases isDigit : c.isDigit with
  | true => rw [digit?_of_isDigit isDigit]; rfl
  | false => rw [digit?_of_not_isDigit isDigit]; rfl

/-- A digit is one of ten characters. -/
theorem eq_digitChar_of_isDigit {c : Char} (isDigit : c.isDigit = true) :
    ∃ digit, digit < 10 ∧ c = Nat.digitChar digit := by
  unfold Char.isDigit at isDigit
  rw [Bool.and_eq_true, decide_eq_true_eq, decide_eq_true_eq] at isDigit
  refine ⟨c.toNat - 48, ?_, ?_⟩
  · have toNine : c.toNat ≤ 57 := isDigit.2
    omega
  · have fromZero : 48 ≤ c.toNat := isDigit.1
    have toNine : c.toNat ≤ 57 := isDigit.2
    have same : (Nat.digitChar (c.toNat - 48)).toNat = c.toNat := by
      rw [Nat.toNat_digitChar_of_lt_ten (by omega)]
      omega
    exact (Char.ext (UInt32.toNat.inj same)).symm

theorem isBlank_of_isDigit {c : Char} (isDigit : c.isDigit = true) : isBlank c = false := by
  obtain ⟨digit, small, rfl⟩ := eq_digitChar_of_isDigit isDigit
  have noneBlank : ∀ digit : Fin 10, isBlank (Nat.digitChar digit) = false := by decide
  exact noneBlank ⟨digit, small⟩

/-- A text that does not begin with a digit. -/
def Stops (text : List Char) : Prop :=
  ∀ c ∈ text.head?, c.isDigit = false

theorem stops_nil : Stops [] :=
  fun _ isHead => by cases isHead

theorem stops_cons {c : Char} (noDigit : c.isDigit = false) (rest : List Char) :
    Stops (c :: rest) :=
  fun _ isHead => Option.some.inj isHead ▸ noDigit

theorem le_ofDigitChars (digits : List Char) (value : Nat) :
    value ≤ Nat.ofDigitChars 10 digits value := by
  induction digits generalizing value with
  | nil => simp
  | cons digit rest ih =>
      rw [Nat.ofDigitChars_cons]
      have grown := ih (10 * value + (digit.toNat - '0'.toNat))
      omega

/-- The first digit of a numeral is zero for zero only. -/
theorem toDigits_eq_cons {number : Nat} (positive : 0 < number) :
    ∃ first rest, 0 < first ∧ first < 10 ∧
      Nat.toDigits 10 number = Nat.digitChar first :: rest := by
  induction number using Nat.strongRecOn with
  | ind number ih =>
      by_cases small : number < 10
      · exact ⟨number, [], positive, small, Nat.toDigits_of_lt_base small⟩
      · obtain ⟨first, rest, firstPositive, firstSmall, same⟩ :=
          ih (number / 10) (by omega) (by omega)
        refine ⟨first, rest ++ [Nat.digitChar (number % 10)], firstPositive, firstSmall, ?_⟩
        rw [Nat.toDigits_of_base_le (by decide) (by omega), same, List.cons_append]

/-! ### Digits read in turn -/

theorem digitsFrom?_eq {digits : List Char} (areDigits : ∀ c ∈ digits, c.isDigit = true)
    (value : Nat) : digitsFrom? value digits = some (Nat.ofDigitChars 10 digits value) := by
  induction digits generalizing value with
  | nil => rfl
  | cons digit rest ih =>
      obtain ⟨isDigit, restDigits⟩ := List.forall_mem_cons.mp areDigits
      rw [digitsFrom?, digit?_of_isDigit isDigit, Option.bind_some, ih restDigits,
        Nat.ofDigitChars_cons, Nat.mul_comm value]

theorem natural?_eq {digits : List Char} (areDigits : ∀ c ∈ digits, c.isDigit = true)
    (someDigit : digits ≠ []) : natural? digits = some (Nat.ofDigitChars 10 digits 0) := by
  cases digits with
  | nil => exact absurd rfl someDigit
  | cons digit rest => exact digitsFrom?_eq areDigits 0

theorem digitsFrom?_eq_none {text : List Char} {c : Char} (member : c ∈ text)
    (noDigit : c.isDigit = false) (value : Nat) : digitsFrom? value text = none := by
  induction text generalizing value with
  | nil => cases member
  | cons first rest ih =>
      rw [digitsFrom?]
      rcases List.mem_cons.mp member with rfl | later
      · rw [digit?_of_not_isDigit noDigit]
        rfl
      · cases digit? first with
        | none => rfl
        | some digit => exact ih later _

theorem natural?_eq_none {text : List Char} {c : Char} (member : c ∈ text)
    (noDigit : c.isDigit = false) : natural? text = none := by
  cases text with
  | nil => rfl
  | cons first rest => exact digitsFrom?_eq_none member noDigit 0

/-! ### Zeros before a numeral -/

theorem toList_zeroPad (width number : Nat) : (zeroPad width number).toList =
    List.replicate (width - (Nat.toDigits 10 number).length) '0' ++ Nat.toDigits 10 number := by
  simp [zeroPad]

theorem isDigit_of_mem_zeroPad {width number : Nat} {c : Char}
    (member : c ∈ (zeroPad width number).toList) : c.isDigit = true := by
  rw [toList_zeroPad] at member
  rcases List.mem_append.mp member with isZero | isDigit
  · rw [List.eq_of_mem_replicate isZero]
    rfl
  · exact Nat.isDigit_of_mem_toDigits (by decide) (by decide) isDigit

@[simp]
theorem ofDigitChars_zeroPad (width number : Nat) :
    Nat.ofDigitChars 10 (zeroPad width number).toList 0 = number := by
  rw [toList_zeroPad, Nat.ofDigitChars_append, Nat.ofDigitChars_replicate_zero, Nat.mul_zero,
    Nat.ofDigitChars_ten_toDigits]

theorem zeroPad_ne_nil (width number : Nat) : (zeroPad width number).toList ≠ [] := by
  simp [toList_zeroPad]

theorem length_zeroPad {width number : Nat} (positive : 0 < width)
    (fits : number < Nat.pow 10 width) : (zeroPad width number).toList.length = width := by
  have short := (Nat.length_toDigits_le_iff (by decide) positive).mpr fits
  rw [toList_zeroPad, List.length_append, List.length_replicate]
  omega

end TreeShell.Text
