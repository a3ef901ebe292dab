import TreeShell.Json.Printer
import TreeShell.Json.Reader
import TreeShell.Proofs.Digits

/-!
# Strings and numbers of JSON

A written string is read back as it was, whatever characters it has, and so is a written natural
number that fits 64 bits.
-/

namespace TreeShell.Json

open Text (Stops)

/-! ### Strings -/

theorem hexDigit?_digitChar {digit : Nat} (small : digit < 16) :
    Text.hexDigit? (Nat.digitChar digit) = some digit := by
  have all : ∀ digit : Fin 16, Text.hexDigit? (Nat.digitChar digit) = some digit.val := by decide
  exact all ⟨digit, small⟩

/-- The escape of a control denotes it. -/
theorem readUnicode_control {c : Char} (control : c.toNat < 0x20) (rest : List Char) :
    readUnicode ('0' :: '0' :: Nat.digitChar (c.toNat / 16) :: Nat.digitChar (c.toNat % 16) :: rest) =
      .ok (c, rest) := by
  have high := hexDigit?_digitChar (by omega : c.toNat / 16 < 16)
  have low := hexDigit?_digitChar (by omega : c.toNat % 16 < 16)
  have zero : Text.hexDigit? '0' = some 0 := by decide
  have code : ((0 * 16 + 0) * 16 + c.toNat / 16) * 16 + c.toNat % 16 = c.toNat := by omega
  have isHex : readHex ('0' :: '0' :: Nat.digitChar (c.toNat / 16) ::
      Nat.digitChar (c.toNat % 16) :: rest) = .ok (c.toNat, rest) := by
    simp only [readHex, zero, high, low, code]
  have notLow : ¬ (0xdc00 ≤ c.toNat ∧ c.toNat ≤ 0xdfff) := by omega
  have plain : c.toNat < 0xd800 ∨ 0xdbff < c.toNat := by omega
  simp only [readUnicode, isHex, bind, Except.bind, if_neg notLow, if_pos plain, pure, Except.pure,
    Char.ofNat_toNat]

/-- One written character is read as that character. -/
theorem readChars_escapeChar (steps : Nat) (c : Char) (later : List Char) :
    readChars (steps + 1) (escapeChar c ++ later) = (do
      let (others, rest) ← readChars steps later
      return (c :: others, rest)) := by
  unfold escapeChar
  split
  next same => subst same; rfl
  next notQuote =>
    split
    next same => subst same; rfl
    next notBackslash =>
      split
      next same => subst same; rfl
      split
      next same => subst same; rfl
      split
      next same => subst same; rfl
      split
      next same => subst same; rfl
      split
      next same => subst same; rfl
      split
      next control =>
        have escape := readUnicode_control control later
        simp only [List.cons_append, List.nil_append, readChars, readEscape]
        simp [escape, bind, Except.bind]
      next visible =>
        simp only [List.cons_append, List.nil_append, readChars, if_neg notQuote,
          if_neg notBackslash, if_neg visible]

theorem readChars_written (chars rest : List Char) {steps : Nat} (enough : chars.length < steps) :
    readChars steps (chars.foldr (fun c later => escapeChar c ++ later) ('"' :: rest)) =
      .ok (chars, rest) := by
  induction chars generalizing steps with
  | nil =>
      cases steps with
      | zero => omega
      | succ steps => rfl
  | cons c chars ih =>
      cases steps with
      | zero => omega
      | succ steps =>
          rw [List.foldr_cons, readChars_escapeChar, ih (by simpa using enough)]
          rfl

theorem length_le_escaped (chars rest : List Char) :
    chars.length + rest.length ≤
      (chars.foldr (fun c later => escapeChar c ++ later) rest).length := by
  have oneAtLeast : ∀ c, 1 ≤ (escapeChar c).length := by
    intro c
    unfold escapeChar
    repeat' split
    all_goals simp
  induction chars with
  | nil => simp
  | cons c chars ih =>
      rw [List.foldr_cons, List.length_append, List.length_cons]
      have one := oneAtLeast c
      omega

/-- A written string is longer than what follows it. -/
theorem length_lt_printString (text : String) (rest : List Char) :
    rest.length < (printString text rest).length := by
  have escaped := length_le_escaped text.toList ('"' :: rest)
  rw [List.length_cons] at escaped
  rw [printString, List.length_cons]
  omega

/-- A written string is read back, given room for the whole text. -/
theorem readString_printString {limit : Nat} {text : String} {rest quoted : List Char}
    (isString : printString text rest = '"' :: quoted) (room : quoted.length < limit) :
    readString limit quoted = .ok (text, rest) := by
  have same : quoted = text.toList.foldr (fun c later => escapeChar c ++ later) ('"' :: rest) :=
    (List.cons.inj isString).2.symm
  have escaped := length_le_escaped text.toList ('"' :: rest)
  rw [← same, List.length_cons] at escaped
  rw [readString, same, readChars_written _ _ (by omega)]
  simp [bind, Except.bind, pure, Except.pure]

/-! ### Numbers -/

/-- A text that does not go on with a number. -/
def EndsNumber (text : List Char) : Prop :=
  Stops text ∧ ∀ c ∈ text.head?, c ≠ '.' ∧ c ≠ 'e' ∧ c ≠ 'E'

theorem endsNumber_nil : EndsNumber [] :=
  ⟨fun _ isHead => (Option.not_mem_none _ isHead).elim,
    fun _ isHead => (Option.not_mem_none _ isHead).elim⟩

theorem endsNumber_cons {c : Char} (noDigit : c.isDigit = false)
    (others : c ≠ '.' ∧ c ≠ 'e' ∧ c ≠ 'E') (rest : List Char) : EndsNumber (c :: rest) :=
  ⟨Text.stops_cons noDigit rest, fun _ isHead => Option.some.inj isHead ▸ others⟩

theorem readDigits_append {digits rest : List Char} (areDigits : ∀ c ∈ digits, c.isDigit = true)
    (stops : Stops rest) (value count : Nat)
    (small : Nat.ofDigitChars 10 digits value < 1 <<< 64) :
    readDigits value count (digits ++ rest) =
      (Nat.ofDigitChars 10 digits value, count + digits.length, rest) := by
  induction digits generalizing value count with
  | nil =>
      cases rest with
      | nil => simp [readDigits]
      | cons c rest =>
          have noDigit := Text.digit?_of_not_isDigit (stops c rfl)
          simp [readDigits, noDigit]
  | cons c digits ih =>
      have isDigit := Text.digit?_of_isDigit (areDigits c List.mem_cons_self)
      rw [Nat.ofDigitChars_cons] at small ⊢
      rw [Nat.mul_comm 10 value] at small ⊢
      have bounded := Text.le_ofDigitChars digits (value * 10 + (c.toNat - '0'.toNat))
      have fits : value * 10 + (c.toNat - '0'.toNat) < 1 <<< 64 := by omega
      rw [List.cons_append, readDigits, isDigit]
      dsimp only
      rw [if_pos fits, ih (fun d member => areDigits d (List.mem_cons_of_mem _ member)) _ _ small,
        List.length_cons]
      congr 2
      omega

theorem readAfterWhole_of_endsNumber {rest : List Char} (ends : EndsNumber rest) (value : Nat) :
    readAfterWhole false value rest = .ok (.natural value, rest) := by
  cases rest with
  | nil => rfl
  | cons c rest =>
      obtain ⟨notPoint, notSmall, notLarge⟩ := ends.2 c rfl
      unfold readAfterWhole
      split
      next same => exact absurd (List.cons.inj same).1 notPoint
      next same => exact absurd (List.cons.inj same).1 notSmall
      next same => exact absurd (List.cons.inj same).1 notLarge
      next => rfl

/-- A written natural number of 64 bits is read back. -/
theorem readNumber_toDigits {value : Nat} (fits : value < 1 <<< 64) {rest : List Char}
    (ends : EndsNumber rest) :
    readNumber false (Nat.toDigits 10 value ++ rest) = .ok (.natural value, rest) := by
  by_cases zero : value = 0
  · subst zero
    rw [Nat.toDigits_zero]
    cases rest with
    | nil => rfl
    | cons c rest =>
        have noDigit := Text.digit?_of_not_isDigit (ends.1 c rfl)
        show readNumber false ('0' :: c :: rest) = _
        simp only [readNumber, noDigit]
        exact readAfterWhole_of_endsNumber ends 0
  · obtain ⟨first, others, positive, small, same⟩ := Text.toDigits_eq_cons (Nat.pos_of_ne_zero zero)
    have areDigits : ∀ c ∈ Nat.toDigits 10 value, c.isDigit = true := fun c member =>
      Nat.isDigit_of_mem_toDigits (by decide) (by decide) member
    have denotes := Nat.ofDigitChars_ten_toDigits (n := value)
    rw [same] at areDigits denotes ⊢
    rw [Nat.ofDigitChars_cons_digitChar_of_lt_ten small, Nat.mul_zero, Nat.zero_add] at denotes
    have isDigit := Text.digit?_of_isDigit (areDigits _ List.mem_cons_self)
    rw [Nat.toNat_digitChar_of_lt_ten small] at isDigit
    have notZero : Nat.digitChar first ≠ '0' := by
      intro isZero
      rw [Nat.digitChar_eq_zero] at isZero
      omega
    have readOthers := readDigits_append
      (fun c member => areDigits c (List.mem_cons_of_mem _ member)) ends.1 first 1
      (by rw [denotes]; exact fits)
    rw [denotes] at readOthers
    have notDropped : (rest.takeWhile fun c => (Text.digit? c).isSome) = [] := by
      cases rest with
      | nil => rfl
      | cons c rest =>
          have noDigit := Text.digit?_of_not_isDigit (ends.1 c rfl)
          simp [noDigit]
    rw [List.cons_append]
    unfold readNumber
    split
    next same => cases same
    next same => exact absurd (List.cons.inj same).1 notZero
    next c text _ same =>
      cases same
      rw [isDigit]
      have digitValue : 48 + first - '0'.toNat = first := by
        show 48 + first - 48 = first
        omega
      simp only [digitValue, readOthers, notDropped, List.length_nil, if_true]
      exact readAfterWhole_of_endsNumber ends value

end TreeShell.Json
