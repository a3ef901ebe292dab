import TreeShell.Proofs.Digits
import TreeShell.Proofs.LineOrders
import TreeShell.Proofs.Rounding
import TreeShell.Text.Lines

/-!
# Lines sorted by their numbers

A line is sorted by the number that it begins with. All digits and points that follow each other
are read as one numeral, which is none if it has two points. So a number keeps its value whatever
comes after it, except for another point: then it counts as zero.
-/

namespace TreeShell

/-- A number as it is written: perhaps a minus sign, digits, and perhaps a point and more digits,
with at least one digit on either side of the point. -/
structure WrittenNumber where
  negative : Bool
  whole : List Char
  fraction : Option (List Char)
  areDigits : ∀ c ∈ whole ++ fraction.getD [], c.isDigit = true
  someDigit : whole ++ fraction.getD [] ≠ []

namespace WrittenNumber

variable (number : WrittenNumber)

def digits : List Char :=
  number.whole ++ number.fraction.getD []

def places : Nat :=
  (number.fraction.getD []).length

def unsigned : List Char :=
  number.whole ++ (number.fraction.elim [] ('.' :: ·))

def text : List Char :=
  if number.negative then '-' :: number.unsigned else number.unsigned

def value : ℚ :=
  (if number.negative then -1 else 1) *
    (Nat.ofDigitChars 10 number.digits 0 / 10 ^ number.places)

theorem value_eq (digits places : Nat) (isDigits : Nat.ofDigitChars 10 number.digits 0 = digits)
    (isPlaces : number.places = places) :
    number.value = (if number.negative then -1 else 1) * (digits / 10 ^ places) := by
  rw [value, isDigits, isPlaces]

/-- The number is the longest one that the line begins with after blanks, and this is the rest. -/
structure Begins (line : String) (rest : List Char) : Prop where
  isFront : Text.trimStart line.toList = number.text ++ rest
  longest : ∀ other : WrittenNumber, other.text <+: Text.trimStart line.toList →
    other.text.length ≤ number.text.length

theorem isNumeralChar_iff {c : Char} :
    LineOrder.isNumeralChar c = true ↔ c.isDigit = true ∨ c = '.' := by
  simp [LineOrder.isNumeralChar, Text.isSome_digit?]

theorem isDigit_ne_point {c : Char} (isDigit : c.isDigit = true) : c ≠ '.' := by
  rintro rfl
  revert isDigit
  decide

variable {number}

theorem isNumeralChar_of_mem {c : Char} (member : c ∈ number.unsigned) :
    LineOrder.isNumeralChar c = true := by
  rw [isNumeralChar_iff]
  rcases List.mem_append.mp member with inWhole | inFraction
  · exact Or.inl (number.areDigits c (List.mem_append_left _ inWhole))
  · have digits := number.areDigits c
    cases hasFraction : number.fraction with
    | none => simp [hasFraction] at inFraction
    | some fraction =>
        rw [hasFraction, Option.elim_some, List.mem_cons] at inFraction
        rw [hasFraction, Option.getD_some] at digits
        rcases inFraction with isPoint | later
        · exact Or.inr isPoint
        · exact Or.inl (digits (List.mem_append_right _ later))

theorem unsigned_ne_nil : number.unsigned ≠ [] := by
  have someDigit := number.someDigit
  unfold unsigned
  cases hasFraction : number.fraction with
  | none => simpa [hasFraction] using someDigit
  | some fraction => simp

theorem text_ne_nil : number.text ≠ [] := by
  unfold text
  split
  · simp
  · exact unsigned_ne_nil

theorem isNumeralChar_of_mem_tail {c : Char} (member : c ∈ number.text.tail) :
    LineOrder.isNumeralChar c = true := by
  unfold text at member
  split at member
  · exact isNumeralChar_of_mem member
  · exact isNumeralChar_of_mem (List.mem_of_mem_tail member)

theorem count_point_text :
    number.text.count '.' = if number.fraction.isSome then 1 else 0 := by
  have noPoint : ∀ part : List Char, (∀ c ∈ part, c.isDigit = true) → part.count '.' = 0 := by
    intro part digits
    exact List.count_eq_zero.mpr fun member => isDigit_ne_point (digits '.' member) rfl
  have inWhole := noPoint number.whole fun c member =>
    number.areDigits c (List.mem_append_left _ member)
  have inFraction := noPoint (number.fraction.getD []) fun c member =>
    number.areDigits c (List.mem_append_right _ member)
  have counted : number.unsigned.count '.' = if number.fraction.isSome then 1 else 0 := by
    unfold unsigned
    rw [List.count_append, inWhole]
    cases hasFraction : number.fraction with
    | none => rfl
    | some fraction =>
        rw [hasFraction] at inFraction
        simpa using inFraction
  unfold text
  split
  · rw [List.count_cons_of_ne (by decide), counted]
  · exact counted

/-- A number goes on with a digit, or with a point if it has none. -/
theorem exists_text_eq_concat {c : Char}
    (goesOn : c.isDigit = true ∨ c = '.' ∧ number.fraction = none) :
    ∃ other : WrittenNumber, other.text = number.text ++ [c] := by
  obtain ⟨negative, whole, fraction, areDigits, someDigit⟩ := number
  rcases goesOn with isDigit | ⟨rfl, noFraction⟩
  · cases fraction with
    | none =>
        have allDigits : ∀ d ∈ (whole ++ [c]) ++ [], d.isDigit = true := by
          intro d member
          rw [List.append_nil, List.mem_append, List.mem_singleton] at member
          rcases member with inWhole | rfl
          · exact areDigits d (List.mem_append_left _ inWhole)
          · exact isDigit
        refine ⟨⟨negative, whole ++ [c], none, allDigits, by simp⟩, ?_⟩
        cases negative <;> simp [text, unsigned]
    | some fraction =>
        have allDigits : ∀ d ∈ whole ++ (fraction ++ [c]), d.isDigit = true := by
          intro d member
          rw [← List.append_assoc, List.mem_append, List.mem_singleton] at member
          rcases member with earlier | rfl
          · exact areDigits d earlier
          · exact isDigit
        refine ⟨⟨negative, whole, some (fraction ++ [c]), allDigits, by simp⟩, ?_⟩
        cases negative <;> simp [text, unsigned]
  · dsimp only at noFraction
    subst noFraction
    refine ⟨⟨negative, whole, some [], areDigits, someDigit⟩, ?_⟩
    cases negative <;> simp [text, unsigned]

theorem begins_iff {line : String} {rest : List Char} : number.Begins line rest ↔
    Text.trimStart line.toList = number.text ++ rest ∧ Text.Stops rest ∧
      (number.fraction = none → rest.head? ≠ some '.') := by
  constructor
  · rintro ⟨isFront, longest⟩
    have ends : ∀ c, rest.head? = some c →
        ¬ (c.isDigit = true ∨ c = '.' ∧ number.fraction = none) := by
      intro c isHead goesOn
      obtain ⟨other, isLonger⟩ := exists_text_eq_concat goesOn
      obtain ⟨more, rfl⟩ := List.head?_eq_some_iff.mp isHead
      have notLonger := longest other ⟨more, by rw [isFront, isLonger]; simp⟩
      rw [isLonger, List.length_append, List.length_singleton] at notLonger
      omega
    refine ⟨isFront, ?_, ?_⟩
    · intro c isHead
      simpa using fun isDigit => ends c isHead (Or.inl isDigit)
    · intro noFraction isHead
      exact ends '.' isHead (Or.inr ⟨rfl, noFraction⟩)
  · rintro ⟨isFront, stops, noPoint⟩
    refine ⟨isFront, ?_⟩
    intro other isPrefix
    by_contra longer
    have shorter : number.text.length < other.text.length := Nat.lt_of_not_le longer
    rw [isFront] at isPrefix
    obtain ⟨more, isOther⟩ : number.text <+: other.text :=
      List.prefix_of_prefix_length_le (List.prefix_append _ _) isPrefix shorter.le
    rw [← isOther, List.prefix_append_right_inj] at isPrefix
    -- The first character of the rest belongs to the longer number, but is not its sign.
    cases more with
    | nil =>
        rw [← isOther, List.append_nil] at shorter
        exact lt_irrefl _ shorter
    | cons c more =>
        obtain ⟨after, rfl⟩ := isPrefix
        have inTail : c ∈ other.text.tail := by
          have someText : number.text ≠ [] := text_ne_nil
          obtain ⟨first, others, starts⟩ := List.exists_cons_of_ne_nil someText
          rw [← isOther, starts]
          simp
        rcases isNumeralChar_iff.mp (isNumeralChar_of_mem_tail inTail) with isDigit | rfl
        · have noDigit := stops c rfl
          rw [isDigit] at noDigit
          cases noDigit
        · have hasFraction : number.fraction.isSome = true := by
            by_contra noFraction
            exact noPoint (by simpa using noFraction) rfl
          have onePoint : other.text.count '.' ≤ 1 := by
            rw [count_point_text]
            split <;> decide
          rw [← isOther, List.count_append, count_point_text, if_pos hasFraction,
            List.count_cons_self] at onePoint
          omega

/-! ### The number that lines are compared by -/

theorem magnitude?_eq_map (whole after : List Char) (noPoint : '.' ∉ whole)
    (isAfter : after = [] ∨ after.head? = some '.') :
    LineOrder.magnitude? (whole ++ after) = (Text.natural? (whole ++ after.drop 1)).map
      fun value => Binary64.round value (10 ^ (after.drop 1).length) := by
  have allBefore : ∀ c ∈ whole, (c != '.') = true := by
    intro c member
    rw [bne_iff_ne]
    rintro rfl
    exact noPoint member
  have cut : (whole ++ after).takeWhile (· != '.') = whole ∧
      (whole ++ after).dropWhile (· != '.') = after := by
    rw [List.takeWhile_append_of_pos allBefore, List.dropWhile_append_of_pos allBefore]
    rcases isAfter with rfl | isPoint
    · simp
    · obtain ⟨rest, rfl⟩ := List.head?_eq_some_iff.mp isPoint
      simp
  unfold LineOrder.magnitude?
  simp only [List.span_eq_takeWhile_dropWhile, cut]
  cases Text.natural? (whole ++ after.drop 1) <;> rfl

theorem point_notMem_whole (number : WrittenNumber) : '.' ∉ number.whole := fun member =>
  isDigit_ne_point (number.areDigits '.' (List.mem_append_left _ member)) rfl

theorem magnitude?_unsigned (number : WrittenNumber) : LineOrder.magnitude? number.unsigned =
    some (Binary64.round (Nat.ofDigitChars 10 number.digits 0) (10 ^ number.places)) := by
  have parts : (number.fraction.elim [] ('.' :: ·)).drop 1 = number.fraction.getD [] := by
    cases number.fraction <;> rfl
  have read := Text.natural?_eq number.areDigits number.someDigit
  rw [unsigned, magnitude?_eq_map _ _ number.point_notMem_whole, parts, read]
  · rfl
  · cases number.fraction
    · exact Or.inl rfl
    · exact Or.inr rfl

theorem magnitude?_of_point (hasFraction : number.fraction ≠ none) (more : List Char) :
    LineOrder.magnitude? (number.unsigned ++ '.' :: more) = none := by
  obtain ⟨fraction, isFraction⟩ := Option.ne_none_iff_exists'.mp hasFraction
  have secondPoint : '.' ∈ number.whole ++ (fraction ++ '.' :: more) := by simp
  rw [unsigned, isFraction, Option.elim_some, List.append_assoc,
    magnitude?_eq_map _ _ number.point_notMem_whole (Or.inr rfl)]
  change Option.map _ (Text.natural? (number.whole ++ (fraction ++ '.' :: more))) = none
  rw [Text.natural?_eq_none secondPoint rfl]
  rfl

/-- What a line's number is taken for: nothing, if another point comes right after it. -/
def taken (number : WrittenNumber) (rest : List Char) : ℚ :=
  if rest.head? = some '.' then 0 else number.value

theorem taken_mem {count : Nat} (rest : List Char) (ordinary : Binary64.Ordinary number.value)
    (hasDigits : Binary64.HasDigits count number.value) :
    Binary64.Ordinary (number.taken rest) ∧ Binary64.HasDigits count (number.taken rest) := by
  unfold taken
  split
  · exact ⟨Or.inl rfl, Binary64.hasDigits_zero count⟩
  · exact ⟨ordinary, hasDigits⟩

theorem nearest_value (number : WrittenNumber) : Binary64.nearest number.value =
    (if number.negative then -1 else 1) *
      Binary64.round (Nat.ofDigitChars 10 number.digits 0) (10 ^ number.places) := by
  have positive : 0 < 10 ^ number.places := by positivity
  have rounded := Binary64.nearest_div (Nat.ofDigitChars 10 number.digits 0) positive
  push_cast at rounded
  unfold value
  split
  · rw [neg_one_mul, Binary64.nearest_neg, rounded, neg_one_mul]
  · rw [one_mul, rounded, one_mul]

/-- The characters of a numeral that a line begins with, and the number they are read as. -/
theorem magnitude?_takeWhile {line : String} {rest : List Char} (begins : number.Begins line rest) :
    ((LineOrder.magnitude? ((number.unsigned ++ rest).takeWhile LineOrder.isNumeralChar)).getD 0) =
      if rest.head? = some '.' then 0
      else Binary64.round (Nat.ofDigitChars 10 number.digits 0) (10 ^ number.places) := by
  obtain ⟨-, stops, noPoint⟩ := begins_iff.mp begins
  rw [List.takeWhile_append_of_pos fun c => isNumeralChar_of_mem]
  split
  next isPoint =>
    obtain ⟨more, rfl⟩ := List.head?_eq_some_iff.mp isPoint
    have hasFraction : number.fraction ≠ none := fun isNone => noPoint isNone rfl
    rw [List.takeWhile_cons_of_pos rfl, magnitude?_of_point hasFraction, Option.getD_none]
  next otherwise =>
    have ends : rest.takeWhile LineOrder.isNumeralChar = [] := by
      cases rest with
      | nil => rfl
      | cons c more =>
          have noDigit := stops c rfl
          refine List.takeWhile_cons_of_neg ?_
          rw [isNumeralChar_iff, noDigit]
          simpa using otherwise
    rw [ends, List.append_nil, magnitude?_unsigned, Option.getD_some]

theorem Begins.leadingNumber_eq {line : String} {rest : List Char}
    (begins : number.Begins line rest) :
    LineOrder.leadingNumber line = Binary64.nearest (number.taken rest) := by
  have taken_eq : Binary64.nearest (number.taken rest) = (if number.negative then -1 else 1) *
      ((LineOrder.magnitude?
        ((number.unsigned ++ rest).takeWhile LineOrder.isNumeralChar)).getD 0 : Nat) := by
    rw [magnitude?_takeWhile begins, taken]
    split
    · simp
    · exact number.nearest_value
  rw [taken_eq, LineOrder.leadingNumber, begins.isFront, text]
  cases number.negative with
  | true => simp
  | false =>
      have someDigits : number.unsigned ≠ [] := unsigned_ne_nil
      obtain ⟨first, more, starts⟩ := List.exists_cons_of_ne_nil someDigits
      have noMinus : first ≠ '-' := by
        rintro rfl
        have minusIn : '-' ∈ number.unsigned := by simp [starts]
        have isNumeral := isNumeralChar_of_mem minusIn
        revert isNumeral
        decide
      simp [starts, noMinus]

end WrittenNumber

namespace LineOrder

open Binary64 (nearest HasDigits Ordinary)

variable {order : LineOrder} {left right : String} {lines : List String}
  {first second : WrittenNumber} {rest rest' : List Char}

theorem before_iff_leadingNumber (numeric : order.numeric = true)
    (forward : order.reversed = false) :
    left ≠ right ∧ order.Before left right ↔
      leadingNumber left < leadingNumber right ∨
        leadingNumber left = leadingNumber right ∧ left < right := by
  have rankLt : left ≠ right ∧ order.Before left right ↔ order.rank left < order.rank right := by
    rw [Before, if_neg (by simp [forward]), precedes_iff_rank_le, and_comm, lt_iff_le_and_ne,
      order.rank_injective.ne_iff]
  rw [rankLt, rank, rank, if_pos numeric, if_pos numeric, Prod.Lex.toLex_lt_toLex]

theorem allBefore_iff_nearest (numeric : order.numeric = true) (forward : order.reversed = false)
    (isThere : left ∈ lines) (isThere' : right ∈ lines) (begins : first.Begins left rest)
    (begins' : second.Begins right rest') : AllBefore (order.sort lines) left right ↔
      nearest (first.taken rest) < nearest (second.taken rest') ∨
        nearest (first.taken rest) = nearest (second.taken rest') ∧ left < right := by
  rw [order.allBefore_sort_iff lines isThere isThere', before_iff_leadingNumber numeric forward,
    begins.leadingNumber_eq, begins'.leadingNumber_eq]

/-- Of lines that begin with numbers those with the lower number come first when they are sorted by
numbers, and of equal numbers the lower line; for this a number that another point follows counts as
zero. The numbers are compared in double precision, which makes no difference to numbers of at most
15 digits in its range. What follows a number makes no difference either, unless it is a point. -/
theorem allBefore_numeric_iff (numeric : order.numeric = true) (forward : order.reversed = false)
    (isThere : left ∈ lines) (isThere' : right ∈ lines) (begins : first.Begins left rest)
    (begins' : second.Begins right rest') :
    let taken := first.taken rest
    let taken' := second.taken rest'
    (AllBefore (order.sort lines) left right ↔
      nearest taken < nearest taken' ∨ nearest taken = nearest taken' ∧ left < right) ∧
    (HasDigits 15 first.value → HasDigits 15 second.value → Ordinary first.value →
      Ordinary second.value → (AllBefore (order.sort lines) left right ↔
        taken < taken' ∨ taken = taken' ∧ left < right)) := by
  intro taken taken'
  have rounded := allBefore_iff_nearest numeric forward isThere isThere' begins begins'
  refine ⟨rounded, ?_⟩
  intro hasDigits hasDigits' ordinary ordinary'
  have isOrdinary := first.taken_mem rest ordinary hasDigits
  have isOrdinary' := second.taken_mem rest' ordinary' hasDigits'
  rw [rounded, Binary64.nearest_lt_nearest_iff isOrdinary isOrdinary',
    Binary64.nearest_eq_nearest_iff isOrdinary isOrdinary']

/-- A sign and what follows a number make no difference, but an address counts as nothing. -/
theorem allBefore_numeric_iff_address :
    let order : LineOrder := ⟨true, false, false⟩
    let first : WrittenNumber := ⟨true, ['3'], none, by simp, by decide⟩
    let second : WrittenNumber := ⟨false, ['1', '0'], some ['0'], by simp, by decide⟩
    (order.numeric = true ∧ order.reversed = false) ∧
      first.Begins "-3-4" "-4".toList ∧ second.Begins "10.0.0.1" ".0.1".toList ∧
      HasDigits 15 first.value ∧ HasDigits 15 second.value ∧ Ordinary first.value ∧
      Ordinary second.value ∧
      AllBefore (order.sort ["10.0.0.1", "-3-4"]) "-3-4" "10.0.0.1" := by
  intro order first second
  have begins : first.Begins "-3-4" "-4".toList :=
    WrittenNumber.begins_iff.mpr ⟨by decide, Text.stops_cons rfl _, by decide⟩
  have begins' : second.Begins "10.0.0.1" ".0.1".toList :=
    WrittenNumber.begins_iff.mpr ⟨by decide, Text.stops_cons rfl _, by decide⟩
  have isFirst : first.value = -3 := by
    rw [first.value_eq 3 0 (by decide) (by decide), if_pos rfl]
    norm_num
  have isSecond : second.value = 10 := by
    rw [second.value_eq 100 1 (by decide) (by decide), if_neg (by decide)]
    norm_num
  have hasDigits : HasDigits 15 first.value := ⟨3, 0, by norm_num, by norm_num [isFirst]⟩
  have hasDigits' : HasDigits 15 second.value := ⟨10, 0, by norm_num, by norm_num [isSecond]⟩
  have ordinary : Ordinary first.value :=
    Binary64.ordinary_of_one_le (by norm_num [isFirst]) (by norm_num [isFirst])
  have ordinary' : Ordinary second.value :=
    Binary64.ordinary_of_one_le (by norm_num [isSecond]) (by norm_num [isSecond])
  have sorts : order.numeric = true ∧ order.reversed = false := ⟨rfl, rfl⟩
  refine ⟨sorts, begins, begins', hasDigits, hasDigits', ordinary, ordinary', ?_⟩
  have isThere : "-3-4" ∈ ["10.0.0.1", "-3-4"] := by decide
  have isThere' : "10.0.0.1" ∈ ["10.0.0.1", "-3-4"] := by decide
  have sorted := (allBefore_numeric_iff sorts.1 sorts.2 isThere isThere' begins begins').2
    hasDigits hasDigits' ordinary ordinary'
  refine sorted.mpr (Or.inl ?_)
  have isTaken : first.taken "-4".toList = -3 := isFirst
  have isTaken' : second.taken ".0.1".toList = 0 := rfl
  rw [isTaken, isTaken']
  norm_num

/-- A version number comes before a smaller number. -/
theorem not_forall_allBefore_numeric : ¬ ∀ (text left right : String)
    (first second : WrittenNumber) (rest rest' : List Char), first.Begins left rest →
      second.Begins right rest' → HasDigits 15 first.value → HasDigits 15 second.value →
      first.value < second.value → left ∈ Text.lines text → right ∈ Text.lines text →
      AllBefore (LineOrder.sort ⟨true, false, false⟩ (Text.lines text)) left right := by
  intro always
  let first : WrittenNumber := ⟨false, ['1'], none, by simp, by decide⟩
  let second : WrittenNumber := ⟨false, ['1'], some ['2'], by simp, by decide⟩
  have begins : first.Begins "1" [] :=
    WrittenNumber.begins_iff.mpr ⟨by decide, Text.stops_nil, by decide⟩
  have begins' : second.Begins "1.2.3" ".3".toList :=
    WrittenNumber.begins_iff.mpr ⟨by decide, Text.stops_cons rfl _, by decide⟩
  have isFirst : first.value = 1 := by
    rw [first.value_eq 1 0 (by decide) (by decide), if_neg (by decide)]
    norm_num
  have isSecond : second.value = 12 / 10 := by
    rw [second.value_eq 12 1 (by decide) (by decide), if_neg (by decide)]
    norm_num
  have hasDigits : HasDigits 15 first.value := ⟨1, 0, by norm_num, by norm_num [isFirst]⟩
  have isThere : "1" ∈ Text.lines "1\n1.2.3" := by decide
  have isThere' : "1.2.3" ∈ Text.lines "1\n1.2.3" := by decide
  have sorted := always "1\n1.2.3" "1" "1.2.3" first second [] ".3".toList begins begins' hasDigits
    ⟨12, -1, by norm_num, by norm_num [isSecond]⟩ (by norm_num [isFirst, isSecond]) isThere isThere'
  have isTaken : first.taken [] = 1 := isFirst
  have isTaken' : second.taken ".3".toList = 0 := rfl
  have aboveZero : nearest 0 < nearest 1 :=
    Binary64.nearest_lt_nearest one_pos (Or.inl rfl)
      (Binary64.ordinary_of_one_le (by norm_num) (by norm_num)) (Binary64.hasDigits_zero 15)
      (isFirst ▸ hasDigits)
  rw [allBefore_iff_nearest rfl rfl isThere isThere' begins begins', isTaken, isTaken'] at sorted
  omega

end LineOrder

end TreeShell
