import TreeShell.Instant.Format
import TreeShell.Instant.Reader
import TreeShell.Proofs.Calendar
import TreeShell.Proofs.Digits
import TreeShell.Proofs.Json.Values

/-!
# Instants that are written and read

The instants of the calendar are exactly what a written instant can denote: a second between the
first and the last day, and a fraction that goes beyond one second only in the last second of a
minute. Each of them is read back from the form that documents keep.
-/

namespace TreeShell.Instant

open Text (Stops zeroPad)

/-- The instants of the calendar. -/
def IsValid (instant : Instant) : Prop :=
  Date.firstDay * 86400 ≤ instant.seconds ∧ instant.seconds < (Date.lastDay + 1) * 86400 ∧
    (instant.nanoseconds < 1000000000 ∨
      instant.nanoseconds < 2000000000 ∧ instant.seconds % 60 = 59)

instance (instant : Instant) : Decidable instant.IsValid := by
  unfold IsValid; infer_instance

/-! ### Reading numbers -/

theorem readDigits_append {digits rest : List Char} (areDigits : ∀ c ∈ digits, c.isDigit = true)
    {width : Nat} (short : digits.length ≤ width)
    (ends : digits.length = width ∨ Stops rest) {value : Nat}
    (small : Nat.ofDigitChars 10 digits value < 1 <<< 63) :
    readDigits value width (digits ++ rest) = .ok (Nat.ofDigitChars 10 digits value, rest) := by
  induction digits generalizing width value with
  | nil =>
      cases width with
      | zero => rfl
      | succ width =>
          have stops : Stops rest := ends.resolve_left (by simp)
          cases rest with
          | nil => rfl
          | cons c rest =>
              simp [readDigits, Text.digit?_of_not_isDigit (stops c rfl)]
  | cons c digits ih =>
      cases width with
      | zero => cases short
      | succ width =>
          have isDigit := Text.digit?_of_isDigit (areDigits c List.mem_cons_self)
          rw [Nat.ofDigitChars_cons, Nat.mul_comm 10 value] at small ⊢
          have bounded := Text.le_ofDigitChars digits (value * 10 + (c.toNat - '0'.toNat))
          have fits : value * 10 + (c.toNat - '0'.toNat) < 1 <<< 63 := by omega
          rw [List.cons_append, readDigits, isDigit]
          dsimp only
          rw [if_pos fits]
          exact ih (fun d member => areDigits d (List.mem_cons_of_mem _ member))
            (Nat.le_of_succ_le_succ short) (ends.imp_left Nat.succ.inj) small

theorem readNumber_append {digits rest : List Char} (areDigits : ∀ c ∈ digits, c.isDigit = true)
    (notEmpty : digits ≠ []) {width : Nat} (short : digits.length ≤ width)
    (ends : digits.length = width ∨ Stops rest)
    (small : Nat.ofDigitChars 10 digits 0 < 1 <<< 63) :
    readNumber width (digits ++ rest) = .ok (Nat.ofDigitChars 10 digits 0, rest) := by
  have isRead := readDigits_append areDigits short ends small
  cases digits with
  | nil => exact absurd rfl notEmpty
  | cons c digits =>
      have isDigit := Text.digit?_of_isDigit (areDigits c List.mem_cons_self)
      rw [List.cons_append] at isRead ⊢
      simp only [readNumber, isDigit, isRead]

/-- A number with zeros before it is read back. -/
theorem readNumber_zeroPad (width number : Nat) (positive : 0 < width)
    (fits : number < Nat.pow 10 width) (small : number < 1 <<< 63) (rest : List Char) :
    readNumber width ((zeroPad width number).toList ++ rest) = .ok (number, rest) := by
  have length := Text.length_zeroPad positive fits
  rw [readNumber_append (fun c => Text.isDigit_of_mem_zeroPad) (Text.zeroPad_ne_nil width number)
    (Nat.le_of_eq length) (Or.inl length) (by rw [Text.ofDigitChars_zeroPad]; exact small),
    Text.ofDigitChars_zeroPad]

theorem trimStart_cons {c : Char} (notBlank : Text.isBlank c = false) (rest : List Char) :
    Text.trimStart (c :: rest) = c :: rest := by
  rw [Text.trimStart, List.dropWhile_cons, notBlank]
  rfl

theorem trimStart_zeroPad (width number : Nat) (rest : List Char) :
    Text.trimStart ((zeroPad width number).toList ++ rest) =
      (zeroPad width number).toList ++ rest := by
  cases digits : (zeroPad width number).toList with
  | nil => exact absurd digits (Text.zeroPad_ne_nil width number)
  | cons c others =>
      have isDigit : c.isDigit = true :=
        Text.isDigit_of_mem_zeroPad (digits ▸ List.mem_cons_self)
      rw [List.cons_append]
      exact trimStart_cons (Text.isBlank_of_isDigit isDigit) _

/-- Two digits within bounds are read back. -/
theorem readField_zeroPad {least greatest number : Nat} (notBelow : least ≤ number)
    (notAbove : number ≤ greatest) (small : greatest < 100) (rest : List Char) :
    readField least greatest ((zeroPad 2 number).toList ++ rest) = .ok (number, rest) := by
  have fits : number < 10 ^ 2 := by omega
  rw [readField, trimStart_zeroPad, readNumber_zeroPad 2 number (by decide) fits (by omega)]
  exact if_pos ⟨notBelow, notAbove⟩

theorem readMark_cons {mark : Char} (notBlank : Text.isBlank mark = false) (rest : List Char) :
    readMark mark (mark :: rest) = .ok ((), rest) := by
  rw [readMark, trimStart_cons notBlank]
  exact if_pos rfl

/-! ### Reading years -/

theorem noSign_of_isDigit {c : Char} (isDigit : c.isDigit = true) : c ≠ '-' ∧ c ≠ '+' := by
  obtain ⟨digit, small, rfl⟩ := Text.eq_digitChar_of_isDigit isDigit
  have all : ∀ digit : Fin 10, Nat.digitChar digit ≠ '-' ∧ Nat.digitChar digit ≠ '+' := by decide
  exact all ⟨digit, small⟩

/-- The digits of a year after its sign. -/
theorem readNumber_year {number : Nat} (small : number < 1 <<< 63) (rest : List Char) :
    let digits := (zeroPad 4 number).toList ++ '-' :: rest
    readNumber digits.length digits = .ok (number, '-' :: rest) := by
  intro digits
  have short : (zeroPad 4 number).toList.length ≤ digits.length := by simp [digits]
  have isRead := readNumber_append (fun c => Text.isDigit_of_mem_zeroPad)
    (Text.zeroPad_ne_nil 4 number) short
    (Or.inr (Text.stops_cons (by decide : '-'.isDigit = false) rest))
    (by rw [Text.ofDigitChars_zeroPad]; exact small)
  rwa [Text.ofDigitChars_zeroPad] at isRead

/-- A written year is read back, with its sign if it has one. -/
theorem readSigned_yearText {year : Int} (small : year.natAbs < 1 <<< 63) (rest : List Char) :
    readSigned ((Date.yearText year).toList ++ '-' :: rest) = .ok (year, '-' :: rest) := by
  unfold Date.yearText
  by_cases plain : 0 ≤ year ∧ year ≤ 9999
  · have same : (year.toNat : Int) = year := by omega
    have fits : year.toNat < 10 ^ 4 := by omega
    have isRead := readNumber_zeroPad 4 year.toNat (by decide) fits (by omega) ('-' :: rest)
    rw [if_pos plain]
    cases digits : (zeroPad 4 year.toNat).toList with
    | nil => exact absurd digits (Text.zeroPad_ne_nil 4 year.toNat)
    | cons c others =>
        have isDigit : c.isDigit = true :=
          Text.isDigit_of_mem_zeroPad (digits ▸ List.mem_cons_self)
        obtain ⟨notMinus, notPlus⟩ := noSign_of_isDigit isDigit
        rw [digits] at isRead
        unfold readSigned
        split
        next same => exact absurd (List.cons.inj same).1 notMinus
        next same => exact absurd (List.cons.inj same).1 notPlus
        next =>
          rw [isRead]
          simp only [bind, Except.bind, pure, Except.pure, same]
  · rw [if_neg plain]
    by_cases positive : 0 ≤ year
    · have same : (year.toNat : Int) = year := by omega
      have isRead := readNumber_year (by omega : year.toNat < 1 <<< 63) rest
      have text : ("+" ++ zeroPad 4 year.toNat).toList ++ '-' :: rest =
          '+' :: ((zeroPad 4 year.toNat).toList ++ '-' :: rest) := by simp
      dsimp only at isRead
      rw [if_pos positive, text, readSigned, isRead]
      simp only [bind, Except.bind, pure, Except.pure, same]
    · have same : -(year.natAbs : Int) = year := by omega
      have isRead := readNumber_year small rest
      have text : ("-" ++ zeroPad 4 year.natAbs).toList ++ '-' :: rest =
          '-' :: ((zeroPad 4 year.natAbs).toList ++ '-' :: rest) := by simp
      dsimp only at isRead
      rw [if_neg positive, text, readSigned, isRead]
      simp only [bind, Except.bind, pure, Except.pure, same]

theorem yearText_eq_cons (year : Int) :
    ∃ c rest, (Date.yearText year).toList = c :: rest ∧ Text.isBlank c = false := by
  unfold Date.yearText
  split
  next =>
    cases digits : (zeroPad 4 year.toNat).toList with
    | nil => exact absurd digits (Text.zeroPad_ne_nil 4 year.toNat)
    | cons c others =>
        have isDigit : c.isDigit = true :=
          Text.isDigit_of_mem_zeroPad (digits ▸ List.mem_cons_self)
        exact ⟨c, others, rfl, Text.isBlank_of_isDigit isDigit⟩
  next =>
    split
    · exact ⟨'+', (zeroPad 4 year.toNat).toList, by simp, by decide⟩
    · exact ⟨'-', (zeroPad 4 year.natAbs).toList, by simp, by decide⟩

/-- A year of the calendar is read back. -/
theorem readYear_yearText {year : Int} (inRange : Date.yearInRange year = true) (rest : List Char) :
    readYear ((Date.yearText year).toList ++ '-' :: rest) = .ok (year, '-' :: rest) := by
  have bounds : -262143 ≤ year ∧ year ≤ 262142 := by
    simpa [Date.yearInRange] using inRange
  have fits : -2147483648 ≤ year ∧ year ≤ 2147483647 := by omega
  have isRead := readSigned_yearText (by omega : year.natAbs < 1 <<< 63) rest
  obtain ⟨c, others, starts, notBlank⟩ := yearText_eq_cons year
  rw [starts, List.cons_append] at isRead ⊢
  rw [readYear, trimStart_cons notBlank, isRead]
  exact if_pos fits

/-! ### Reading fractions -/

/-- A written fraction is read back, as nanoseconds. -/
theorem readFraction_shortFraction (instant : Instant) :
    readFraction (instant.shortFraction.toList ++ ['Z']) = .ok (instant.fraction, ['Z']) := by
  have small : instant.fraction < 1000000000 := Nat.mod_lt _ (by decide)
  have written : ∀ {width number : Nat}, 0 < width → width ≤ 9 → number < 10 ^ width →
      readFraction ('.' :: ((zeroPad width number).toList ++ ['Z'])) =
        .ok (number * 10 ^ (9 - width), ['Z']) := by
    intro width number positive short fits
    have length := Text.length_zeroPad positive fits
    have smaller : 10 ^ width ≤ 10 ^ 9 := Nat.pow_le_pow_right (by decide) short
    have isRead := readNumber_append (fun c => Text.isDigit_of_mem_zeroPad)
      (Text.zeroPad_ne_nil width number)
      (by omega : (zeroPad width number).toList.length ≤ 9)
      (Or.inr (Text.stops_cons (by decide : 'Z'.isDigit = false) []))
      (by rw [Text.ofDigitChars_zeroPad]; omega)
    rw [Text.ofDigitChars_zeroPad] at isRead
    rw [readFraction, isRead]
    simp [bind, Except.bind, pure, Except.pure, length, Text.digit?]
  unfold shortFraction
  dsimp only
  split
  next zero =>
    rw [zero]
    rfl
  split
  next =>
    have text : ("." ++ zeroPad 3 (instant.fraction / 1000000)).toList ++ ['Z'] =
        '.' :: ((zeroPad 3 (instant.fraction / 1000000)).toList ++ ['Z']) := by simp
    rw [text, written (by decide) (by decide) (by omega)]
    congr 2
    omega
  split
  next =>
    have text : ("." ++ zeroPad 6 (instant.fraction / 1000)).toList ++ ['Z'] =
        '.' :: ((zeroPad 6 (instant.fraction / 1000)).toList ++ ['Z']) := by simp
    rw [text, written (by decide) (by decide) (by omega)]
    congr 2
    omega
  next =>
    have text : ("." ++ zeroPad 9 instant.fraction).toList ++ ['Z'] =
        '.' :: ((zeroPad 9 instant.fraction).toList ++ ['Z']) := by simp
    rw [text, written (by decide) (by decide) (by omega)]
    simp

/-! ### Reading instants -/

theorem toList_text (instant : Instant) :
    instant.text.toList = (Date.yearText instant.date.year).toList ++ '-' ::
      ((zeroPad 2 instant.date.month).toList ++ '-' ::
        ((zeroPad 2 instant.date.day).toList ++ 'T' ::
          ((zeroPad 2 instant.hour).toList ++ ':' ::
            ((zeroPad 2 instant.minute).toList ++ ':' ::
              ((zeroPad 2 instant.second).toList ++ (instant.shortFraction.toList ++ ['Z'])))))) := by
  simp [text, dateTimeText, Date.text, timeText]

/-- The second of the minute tells a leap second from the others. -/
theorem second_spec {instant : Instant} (valid : instant.IsValid) :
    (instant.nanoseconds < 1000000000 ∧ instant.second = instant.secondOfDay % 60) ∨
      (1000000000 ≤ instant.nanoseconds ∧ instant.nanoseconds < 2000000000 ∧
        instant.second = 60 ∧ instant.secondOfDay % 60 = 59) := by
  obtain ⟨-, -, fractionSmall⟩ := valid
  unfold second secondOfDay
  rcases fractionSmall with plain | ⟨leap, lastSecond⟩
  · exact Or.inl ⟨plain, by omega⟩
  · by_cases plain : instant.nanoseconds < 1000000000
    · exact Or.inl ⟨plain, by omega⟩
    · exact Or.inr ⟨by omega, by omega, by omega, by omega⟩

/-- The parts of an instant give the instant back. -/
theorem ofLocal_parts {instant : Instant} (valid : instant.IsValid) :
    ofLocal instant.date instant.hour instant.minute instant.second instant.fraction 0 =
      .ok instant := by
  have seconds := second_spec valid
  obtain ⟨notBefore, notAfter, -⟩ := valid
  have firstDate : Date.firstDay ≤ instant.days := by
    unfold days
    omega
  have lastDate : instant.days ≤ Date.lastDay := by
    unfold days
    omega
  have dateValid : instant.date.isValid = true := Date.isValid_ofDays firstDate lastDate
  have dayCount : instant.date.toDays = instant.days := Date.toDays_ofDays instant.days
  have sameSeconds : instant.days * 86400 + ((instant.hour * 3600 + instant.minute * 60 +
      (instant.second - if instant.second = 60 then 1 else 0) : Nat) : Int) - 0 =
        instant.seconds := by
    unfold days hour minute
    unfold secondOfDay at *
    split <;> omega
  have sameNanoseconds : instant.fraction +
      (if instant.second = 60 then 1 else 0) * 1000000000 = instant.nanoseconds := by
    unfold fraction
    unfold secondOfDay at *
    split <;> omega
  have inRange : ¬ (instant.seconds < Date.firstDay * 86400 ∨
      (Date.lastDay + 1) * 86400 ≤ instant.seconds) := by omega
  unfold ofLocal
  simp only [dateValid, dayCount, sameSeconds, sameNanoseconds, if_neg inRange]
  rfl

/-- An instant of the calendar is read back from its text. -/
theorem read_text {instant : Instant} (valid : instant.IsValid) :
    read instant.text = .ok instant := by
  have dateValid : instant.date.isValid = true := by
    obtain ⟨notBefore, notAfter, -⟩ := valid
    unfold date days
    exact Date.isValid_ofDays (by omega) (by omega)
  simp only [Date.isValid, Bool.and_eq_true, decide_eq_true_eq] at dateValid
  obtain ⟨⟨⟨⟨inRange, monthPositive⟩, monthSmall⟩, dayPositive⟩, daySmall⟩ := dateValid
  have dayShort : instant.date.day ≤ 31 := by
    unfold Date.daysInMonth at daySmall
    repeat' split at daySmall
    all_goals omega
  have hourSmall : instant.hour ≤ 23 := by
    unfold hour secondOfDay
    omega
  have minuteSmall : instant.minute ≤ 59 := by
    unfold minute
    omega
  have secondSmall : instant.second ≤ 60 := by
    rcases second_spec valid with ⟨-, plain⟩ | ⟨-, -, leap, -⟩ <;> omega
  have zoneRead : readZone (Text.trimStart ['Z']) = .ok (0, []) := rfl
  have dateRead : ∀ rest, readDate ((Date.yearText instant.date.year).toList ++ '-' ::
      ((zeroPad 2 instant.date.month).toList ++ '-' ::
        ((zeroPad 2 instant.date.day).toList ++ rest))) = .ok (instant.date, rest) := by
    intro rest
    simp only [readDate, readYear_yearText inRange,
      readMark_cons (by decide : Text.isBlank '-' = false),
      readField_zeroPad monthPositive monthSmall (by decide),
      readField_zeroPad dayPositive dayShort (by decide), bind, Except.bind, pure, Except.pure]
  have timeRead : ∀ rest, readTime ((zeroPad 2 instant.hour).toList ++ ':' ::
      ((zeroPad 2 instant.minute).toList ++ ':' ::
        ((zeroPad 2 instant.second).toList ++ rest))) =
          .ok ((instant.hour, instant.minute, instant.second), rest) := by
    intro rest
    simp only [readTime, readMark_cons (by decide : Text.isBlank ':' = false),
      readField_zeroPad (Nat.zero_le _) hourSmall (by decide),
      readField_zeroPad (Nat.zero_le _) minuteSmall (by decide),
      readField_zeroPad (Nat.zero_le _) secondSmall (by decide), bind, Except.bind, pure,
      Except.pure]
  have separatorRead : ∀ rest, readSeparator ('T' :: rest) = .ok ((), rest) := fun _ => rfl
  have endRead : readEnd [] = .ok ((), []) := rfl
  rw [read, toList_text, readWhole]
  simp only [dateRead, separatorRead, timeRead, readFraction_shortFraction, zoneRead, endRead,
    ofLocal_parts valid, bind, Except.bind]

/-! ### Instants that are read are instants of the calendar -/

/-- Digits that are read multiply the number by ten at most each. -/
theorem readDigits_spec {width : Nat} {value result : Nat} {text rest : List Char}
    (isRead : readDigits value width text = .ok (result, rest)) :
    ∃ places, places ≤ width ∧ text.length = rest.length + places ∧
      result < (value + 1) * Nat.pow 10 places := by
  have unchanged : ∀ value : Nat, value < (value + 1) * Nat.pow 10 0 := by
    intro value
    rw [Nat.pow_eq]
    omega
  induction width generalizing value text with
  | zero =>
      rw [readDigits] at isRead
      cases isRead
      exact ⟨0, Nat.le_refl 0, rfl, unchanged _⟩
  | succ width ih =>
      cases text with
      | nil =>
          rw [readDigits] at isRead
          cases isRead
          exact ⟨0, Nat.zero_le _, rfl, unchanged _⟩
      | cons c text =>
          rw [readDigits] at isRead
          split at isRead
          next =>
            cases isRead
            exact ⟨0, Nat.zero_le _, rfl, unchanged _⟩
          next digit isDigit =>
            split at isRead
            next =>
              obtain ⟨places, few, lengths, small⟩ := ih isRead
              refine ⟨places + 1, by omega, by rw [List.length_cons]; omega, ?_⟩
              have digitSmall : digit ≤ 9 := by
                unfold Text.digit? at isDigit
                split at isDigit
                next inRange =>
                  have toNine : c.toNat ≤ 57 := inRange.2
                  have value := Option.some.inj isDigit
                  have zero : '0'.toNat = 48 := rfl
                  omega
                next => cases isDigit
              calc
                result < (value * 10 + digit + 1) * Nat.pow 10 places := small
                _ ≤ (value + 1) * 10 * Nat.pow 10 places := Nat.mul_le_mul_right _ (by omega)
                _ = (value + 1) * Nat.pow 10 (places + 1) := by
                  rw [Nat.mul_assoc, Nat.pow_eq, Nat.pow_eq, Nat.pow_succ']
            next => cases isRead

theorem readNumber_spec {width : Nat} {result : Nat} {text rest : List Char}
    (isRead : readNumber width text = .ok (result, rest)) :
    ∃ places, places ≤ width ∧ text.length = rest.length + places ∧ result < Nat.pow 10 places := by
  cases text with
  | nil => cases isRead
  | cons c text =>
      rw [readNumber] at isRead
      split at isRead
      next => cases isRead
      next => simpa using readDigits_spec isRead

theorem readField_spec {least greatest result : Nat} {text rest : List Char}
    (isRead : readField least greatest text = .ok (result, rest)) :
    least ≤ result ∧ result ≤ greatest := by
  obtain ⟨⟨value, afterValue⟩, -, isRead⟩ := bind_eq_ok.mp isRead
  dsimp only at isRead
  split at isRead
  next inBounds =>
    cases isRead
    exact inBounds
  next => cases isRead

/-- A fraction that is read is less than a second. -/
theorem readFraction_spec {result : Nat} {text rest : List Char}
    (isRead : readFraction text = .ok (result, rest)) : result < 1000000000 := by
  unfold readFraction at isRead
  split at isRead
  next digits =>
    obtain ⟨⟨value, afterValue⟩, isNumber, isRead⟩ := bind_eq_ok.mp isRead
    cases isRead
    obtain ⟨places, few, lengths, small⟩ := readNumber_spec isNumber
    have count : digits.length - afterValue.length = places := by omega
    rw [count]
    calc
      value * Nat.pow 10 (9 - places) < Nat.pow 10 places * Nat.pow 10 (9 - places) :=
        Nat.mul_lt_mul_of_pos_right small (Nat.pow_pos (by decide))
      _ = Nat.pow 10 9 := by
        rw [Nat.pow_eq, Nat.pow_eq, Nat.pow_eq, ← Nat.pow_add, Nat.add_sub_cancel' few]
  next =>
    cases isRead
    decide

/-- An offset that is read is a whole number of minutes. -/
theorem readZone_spec {offset : Int} {text rest : List Char}
    (isRead : readZone text = .ok (offset, rest)) : offset % 60 = 0 := by
  unfold readZone at isRead
  split at isRead
  next =>
    cases isRead
    rfl
  next =>
    cases isRead
    rfl
  next =>
    split at isRead
    next =>
      cases isRead
      rfl
    next =>
      obtain ⟨⟨negative, afterSign⟩, -, isRead⟩ := bind_eq_ok.mp isRead
      obtain ⟨⟨hours, afterHours⟩, -, isRead⟩ := bind_eq_ok.mp isRead
      obtain ⟨⟨minutes, afterMinutes⟩, -, isRead⟩ := bind_eq_ok.mp isRead
      dsimp only at isRead
      split at isRead
      next =>
        cases isRead
        split <;> omega
      next => cases isRead

/-- The instant of a local time is one of the calendar. -/
theorem isValid_of_ofLocal {date : Date} {hour minute second nanoseconds : Nat} {offset : Int}
    {instant : Instant} (secondSmall : second ≤ 60) (fractionSmall : nanoseconds < 1000000000)
    (minutes : offset % 60 = 0)
    (isLocal : ofLocal date hour minute second nanoseconds offset = .ok instant) :
    instant.IsValid := by
  unfold ofLocal at isLocal
  dsimp only at isLocal
  generalize isLeap : (if second = 60 then 1 else 0) = leap at isLocal
  have leapSpec : leap = 0 ∨ leap = 1 ∧ second = 60 := by
    split at isLeap
    next last => exact Or.inr ⟨isLeap.symm, last⟩
    next => exact Or.inl isLeap.symm
  split at isLocal
  next => cases isLocal
  split at isLocal
  next => cases isLocal
  split at isLocal
  next => cases isLocal
  next inRange =>
    rw [not_or, Int.not_lt, Int.not_le] at inRange
    rw [← Except.ok.inj isLocal]
    refine ⟨inRange.1, inRange.2, ?_⟩
    dsimp only
    rcases leapSpec with rfl | ⟨rfl, rfl⟩
    · exact Or.inl (by omega)
    · exact Or.inr ⟨by omega, by omega⟩

/-- What is read is an instant of the calendar. -/
theorem isValid_of_read {text : String} {instant : Instant} (isRead : read text = .ok instant) :
    instant.IsValid := by
  unfold read readWhole at isRead
  obtain ⟨⟨date, afterDate⟩, -, isRead⟩ := bind_eq_ok.mp isRead
  obtain ⟨separator, -, isRead⟩ := bind_eq_ok.mp isRead
  obtain ⟨⟨⟨hour, minute, second⟩, afterTime⟩, isTime, isRead⟩ := bind_eq_ok.mp isRead
  obtain ⟨⟨nanoseconds, afterFraction⟩, isFraction, isRead⟩ := bind_eq_ok.mp isRead
  obtain ⟨⟨offset, afterZone⟩, isZone, isRead⟩ := bind_eq_ok.mp isRead
  obtain ⟨ending, -, isLocal⟩ := bind_eq_ok.mp isRead
  obtain ⟨⟨hour', afterHour⟩, -, isTime⟩ := bind_eq_ok.mp isTime
  obtain ⟨colon, -, isTime⟩ := bind_eq_ok.mp isTime
  obtain ⟨⟨minute', afterMinute⟩, -, isTime⟩ := bind_eq_ok.mp isTime
  obtain ⟨colon', -, isTime⟩ := bind_eq_ok.mp isTime
  obtain ⟨⟨second', afterSecond⟩, isSecond, isTime⟩ := bind_eq_ok.mp isTime
  cases isTime
  exact isValid_of_ofLocal (readField_spec isSecond).2 (readFraction_spec isFraction)
    (readZone_spec isZone) isLocal

end TreeShell.Instant
