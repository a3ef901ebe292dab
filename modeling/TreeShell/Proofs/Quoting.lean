import TreeShell.Line.Parse
import TreeShell.Proofs.Paths

/-!
# Quoted words on a line

A word can be written in parts, each between two quotes of a kind that does not occur in it. Words
that are written so, with a blank between neighbours, are read back as they are if no part holds a
`|` or a ` > `. Otherwise the line is cut within a part, before any quotes are looked at.
-/

namespace TreeShell

namespace Text

theorem trimChars_eq_self {first last : Char} {text middle : List Char}
    (starts : ∃ rest, text = first :: rest) (ends : text = middle ++ [last])
    (firstIsNoBlank : isBlank first = false) (lastIsNoBlank : isBlank last = false) :
    trimChars text = text := by
  obtain ⟨rest, rfl⟩ := starts
  have stays : trimStart (first :: rest) = first :: rest := by
    simp [trimStart, firstIsNoBlank]
  rw [trimChars, stays, ends, trimEnd]
  simp [lastIsNoBlank]

theorem afterFront?_eq_none_iff {front text : List Char} :
    afterFront? front text = none ↔ ¬ front <+: text := by
  induction front generalizing text with
  | nil => simp [afterFront?]
  | cons c front ih =>
      cases text with
      | nil => simp [afterFront?]
      | cons d text =>
          rw [afterFront?, List.cons_prefix_cons]
          by_cases same : c = d
          · simp [same, ih]
          · simp [same]

theorem splitOnce?_eq_none_iff {separator text : List Char} :
    splitOnce? separator text = none ↔ ¬ separator <:+: text := by
  induction text with
  | nil => simp [splitOnce?, afterFront?_eq_none_iff]
  | cons c rest ih =>
      rw [splitOnce?, List.infix_cons_iff, not_or, ← ih, ← afterFront?_eq_none_iff]
      cases afterFront? separator (c :: rest) <;> simp

/-- A part stands before or after a character that it does not have. -/
theorem infix_append_cons_iff {part : List Char} {c : Char} (absent : c ∉ part)
    (front back : List Char) :
    part <:+: front ++ c :: back ↔ part <:+: front ∨ part <:+: back := by
  constructor
  · intro stands
    rcases List.infix_append_iff.mp stands with inFront | inBack | across
    · exact Or.inl inFront
    · rcases List.infix_cons_iff.mp inBack with starts | later
      · cases part with
        | nil => exact Or.inl List.nil_infix
        | cons d part => simp [(List.cons_prefix_cons.mp starts).1] at absent
      · exact Or.inr later
    · obtain ⟨before, after, rfl, ends, starts⟩ := across
      cases after with
      | nil => exact Or.inl (by simpa using ends.isInfix)
      | cons d after => simp [(List.cons_prefix_cons.mp starts).1] at absent
  · rintro (inFront | inBack)
    · exact inFront.trans (List.prefix_append front _).isInfix
    · exact inBack.trans ((List.suffix_cons c back).trans (List.suffix_append front _)).isInfix

end Text

namespace Line

open Text (joinWith)

def IsQuote (c : Char) : Prop := c = '"' ∨ c = '\''

theorem IsQuote.isBlank {c : Char} (isQuote : IsQuote c) : Text.isBlank c = false := by
  rcases isQuote with rfl | rfl <;> decide

theorem IsQuote.ne_bar {c : Char} (isQuote : IsQuote c) : '|' ≠ c := by
  rcases isQuote with rfl | rfl <;> decide

theorem IsQuote.not_mem_redirection {c : Char} (isQuote : IsQuote c) : c ∉ redirection := by
  rcases isQuote with rfl | rfl <;> decide

/-- A part of a word between two quotes of a kind that does not occur in it. -/
structure QuotedPart where
  quote : Char
  inner : List Char
  isQuote : IsQuote quote
  absent : quote ∉ inner

def QuotedPart.text (part : QuotedPart) : List Char :=
  part.quote :: (part.inner ++ [part.quote])

/-- The word that some parts make up. -/
def wordOf (parts : List QuotedPart) : String :=
  String.ofList (parts.flatMap QuotedPart.inner)

def textOf (parts : List QuotedPart) : List Char :=
  parts.flatMap QuotedPart.text

/-- A line of words in quotes, with a blank between neighbours. -/
def lineOf (written : List (List QuotedPart)) : List Char :=
  joinWith ' ' (written.map textOf)

variable {parts : List QuotedPart} {written : List (List QuotedPart)}

@[simp]
theorem textOf_cons (part : QuotedPart) (parts : List QuotedPart) :
    textOf (part :: parts) = part.quote :: (part.inner ++ part.quote :: textOf parts) := by
  simp [textOf, QuotedPart.text]

theorem lineOf_cons_cons (parts next : List QuotedPart) (rest : List (List QuotedPart)) :
    lineOf (parts :: next :: rest) = textOf parts ++ ' ' :: lineOf (next :: rest) := rfl

@[simp]
theorem lineOf_singleton (parts : List QuotedPart) : lineOf [parts] = textOf parts := rfl

/-- Every word can be written so, with each character in quotes of its own. -/
theorem exists_textOf_eq_quoted (word : String) : ∃ parts, wordOf parts = word ∧
    textOf parts = quoted word ∧ ∀ part ∈ parts, part.inner.length = 1 := by
  have quoteFor_spec : ∀ c : Char, IsQuote (quoteFor c) ∧ quoteFor c ≠ c := by
    intro c
    unfold quoteFor
    split
    next same => exact ⟨Or.inr rfl, by simp [same]⟩
    next different => exact ⟨Or.inl rfl, Ne.symm different⟩
  let alone (c : Char) : QuotedPart :=
    ⟨quoteFor c, [c], (quoteFor_spec c).1, by simpa using (quoteFor_spec c).2⟩
  refine ⟨word.toList.map alone, ?_, ?_, ?_⟩
  · simp [wordOf, alone, List.flatMap_map]
  · simp [textOf, quoted, alone, List.flatMap_map, QuotedPart.text]
  · simp [alone]

/-! ### Reading the words -/

theorem foldl_step_inner {quote : Char} {inner : List Char} (absent : quote ∉ inner)
    (pending : List Char) (finished : List String) :
    inner.foldl WordState.step ⟨some quote, pending, finished⟩ =
      ⟨some quote, inner.reverse ++ pending, finished⟩ := by
  induction inner generalizing pending with
  | nil => rfl
  | cons c rest ih =>
      rw [List.mem_cons, not_or] at absent
      have takes : WordState.step ⟨some quote, pending, finished⟩ c =
          ⟨some quote, c :: pending, finished⟩ := if_neg (Ne.symm absent.1)
      rw [List.foldl_cons, takes, ih absent.2]
      simp

theorem foldl_step_textOf (parts : List QuotedPart) (pending : List Char)
    (finished : List String) :
    (textOf parts).foldl WordState.step ⟨none, pending, finished⟩ =
      ⟨none, (wordOf parts).toList.reverse ++ pending, finished⟩ := by
  induction parts generalizing pending with
  | nil => simp [textOf, wordOf]
  | cons part parts ih =>
      have opens : WordState.step ⟨none, pending, finished⟩ part.quote =
          ⟨some part.quote, pending, finished⟩ := if_pos part.isQuote
      have closes : WordState.step ⟨some part.quote, part.inner.reverse ++ pending, finished⟩
          part.quote = ⟨none, part.inner.reverse ++ pending, finished⟩ := if_pos rfl
      rw [textOf_cons, List.foldl_cons, opens, List.foldl_append, foldl_step_inner part.absent,
        List.foldl_cons, closes, ih]
      simp [wordOf]

theorem finish_of_ne_nil {word : String} (notEmpty : word ≠ "") (quote : Option Char)
    (finished : List String) :
    WordState.finish ⟨quote, word.toList.reverse, finished⟩ = ⟨quote, [], word :: finished⟩ := by
  have someChar : word.toList.reverse ≠ [] := by simpa using notEmpty
  unfold WordState.finish
  split
  next empty => exact absurd empty someChar
  next => simp

theorem words_lineOf (notEmpty : ∀ parts ∈ written, wordOf parts ≠ "") :
    words (lineOf written) = written.map wordOf := by
  have reads : ∀ finished : List String,
      ((lineOf written).foldl WordState.step ⟨none, [], finished⟩).words =
        finished.reverse ++ written.map wordOf := by
    induction written with
    | nil => simp [lineOf, joinWith, WordState.words, WordState.finish]
    | cons parts rest ih =>
        intro finished
        obtain ⟨notEmptyFirst, notEmptyRest⟩ := List.forall_mem_cons.mp notEmpty
        have first : (textOf parts).foldl WordState.step ⟨none, [], finished⟩ =
            ⟨none, (wordOf parts).toList.reverse, finished⟩ := by
          rw [foldl_step_textOf, List.append_nil]
        cases rest with
        | nil =>
            rw [lineOf_singleton, first, WordState.words, finish_of_ne_nil notEmptyFirst]
            simp
        | cons next rest =>
            have separated : WordState.step ⟨none, (wordOf parts).toList.reverse, finished⟩ ' ' =
                ⟨none, [], wordOf parts :: finished⟩ :=
              finish_of_ne_nil notEmptyFirst none finished
            rw [lineOf_cons_cons, List.foldl_append, first, List.foldl_cons, separated,
              ih notEmptyRest]
            simp
  exact reads []

/-! ### Cutting the line -/

theorem ne_nil_of_wordOf_ne (notEmpty : wordOf parts ≠ "") : parts ≠ [] := by
  rintro rfl
  exact notEmpty rfl

theorem exists_textOf_eq_append (someParts : parts ≠ []) :
    ∃ middle quote, IsQuote quote ∧ textOf parts = middle ++ [quote] := by
  induction parts with
  | nil => exact absurd rfl someParts
  | cons part parts ih =>
      cases parts with
      | nil =>
          refine ⟨part.quote :: part.inner, part.quote, part.isQuote, ?_⟩
          simp [textOf, QuotedPart.text]
      | cons next parts =>
          obtain ⟨middle, quote, isQuote, ends⟩ := ih (List.cons_ne_nil _ _)
          refine ⟨part.quote :: (part.inner ++ part.quote :: middle), quote, isQuote, ?_⟩
          rw [textOf_cons, ends]
          simp

/-- A line of words in quotes starts and ends with a quote. -/
theorem ends_lineOf (notEmpty : ∀ parts ∈ written, wordOf parts ≠ "") (someWord : written ≠ []) :
    (∃ quote rest, IsQuote quote ∧ lineOf written = quote :: rest) ∧
      ∃ middle quote, IsQuote quote ∧ lineOf written = middle ++ [quote] := by
  induction written with
  | nil => exact absurd rfl someWord
  | cons parts rest ih =>
      obtain ⟨notEmptyFirst, notEmptyRest⟩ := List.forall_mem_cons.mp notEmpty
      have someParts := ne_nil_of_wordOf_ne notEmptyFirst
      obtain ⟨part, more, rfl⟩ := List.exists_cons_of_ne_nil someParts
      cases rest with
      | nil =>
          rw [lineOf_singleton]
          exact ⟨⟨part.quote, _, part.isQuote, textOf_cons part more⟩,
            exists_textOf_eq_append someParts⟩
      | cons next rest =>
          obtain ⟨-, middle, quote, isQuote, ends⟩ := ih notEmptyRest (List.cons_ne_nil _ _)
          rw [lineOf_cons_cons, ends, textOf_cons]
          refine ⟨⟨part.quote, _, part.isQuote, rfl⟩,
            textOf (part :: more) ++ ' ' :: middle, quote, isQuote, ?_⟩
          simp

/-- A ` > ` in the text of some parts, or after it, is in one of the parts or after them. -/
theorem redirection_infix_textOf_append (parts : List QuotedPart) (after : List Char) :
    redirection <:+: textOf parts ++ after ↔
      (∃ part ∈ parts, redirection <:+: part.inner) ∨ redirection <:+: after := by
  induction parts with
  | nil => simp [textOf]
  | cons part parts ih =>
      have absent := part.isQuote.not_mem_redirection
      have opening := Text.infix_append_cons_iff absent [] (part.inner ++ part.quote ::
        (textOf parts ++ after))
      have closing := Text.infix_append_cons_iff absent part.inner (textOf parts ++ after)
      have notNil : ¬ redirection <:+: [] := by decide
      rw [List.nil_append] at opening
      simp [opening, closing, ih, notNil, or_assoc]

/-- A blank that is followed by a quote begins no ` > `. -/
theorem redirection_infix_space_cons {line : List Char}
    (starts : ∃ quote rest, IsQuote quote ∧ line = quote :: rest) :
    redirection <:+: ' ' :: line ↔ redirection <:+: line := by
  obtain ⟨quote, rest, isQuote, rfl⟩ := starts
  have notGreater : '>' ≠ quote := by rcases isQuote with rfl | rfl <;> decide
  rw [List.infix_cons_iff]
  simp [redirection, notGreater]

theorem redirection_infix_lineOf (notEmpty : ∀ parts ∈ written, wordOf parts ≠ "") :
    redirection <:+: lineOf written ↔
      ∃ parts ∈ written, ∃ part ∈ parts, redirection <:+: part.inner := by
  have notNil : ¬ redirection <:+: [] := by decide
  induction written with
  | nil => simpa [lineOf, joinWith] using notNil
  | cons parts rest ih =>
      obtain ⟨notEmptyFirst, notEmptyRest⟩ := List.forall_mem_cons.mp notEmpty
      cases rest with
      | nil =>
          have alone := redirection_infix_textOf_append parts []
          rw [List.append_nil] at alone
          simp [alone, notNil]
      | cons next rest =>
          have starts := (ends_lineOf notEmptyRest (List.cons_ne_nil _ _)).1
          have later := ih notEmptyRest
          rw [lineOf_cons_cons, redirection_infix_textOf_append,
            redirection_infix_space_cons starts]
          simp [later]

theorem bar_mem_lineOf : '|' ∈ lineOf written ↔
    ∃ parts ∈ written, ∃ part ∈ parts, '|' ∈ part.inner := by
  have inText : ∀ parts : List QuotedPart,
      '|' ∈ textOf parts ↔ ∃ part ∈ parts, '|' ∈ part.inner := by
    intro parts
    induction parts with
    | nil => simp [textOf]
    | cons part parts ih => simp [ih, part.isQuote.ne_bar]
  induction written with
  | nil => simp [lineOf, joinWith]
  | cons parts rest ih =>
      cases rest with
      | nil => simp [inText]
      | cons next rest => simp [lineOf_cons_cons, inText, ih]

/-! ### Reading the line -/

theorem length_stages {pieces : List (List Char)} {read : List (List String)}
    (areStages : stages pieces = .ok read) : read.length = pieces.length := by
  induction pieces generalizing read with
  | nil =>
      cases areStages
      rfl
  | cons piece pieces ih =>
      rw [stages] at areStages
      cases first : stage piece with
      | error fault => simp [first, bind, Except.bind] at areStages
      | ok stageWords =>
          cases others : stages pieces with
          | error fault => simp [first, others, bind, Except.bind] at areStages
          | ok later =>
              simp [first, others, bind, Except.bind, pure, Except.pure] at areStages
              simp [← areStages, ih others]

theorem redirected_ne_pipeline (command target : List Char) (read : List (List String)) :
    redirected command target ≠ .ok (.pipeline read) := by
  unfold redirected
  dsimp only
  split
  · simp
  · split
    · simp
    · split
      · simp
      · split <;> simp

/-- A line that is read as a pipeline has no ` > `, and one `|` less than there are stages. -/
theorem length_of_parseChars {line : List Char} {read : List (List String)}
    (isRead : parseChars line = .ok (.pipeline read)) :
    ¬ redirection <:+: line ∧ read.length = line.count '|' + 1 := by
  unfold parseChars at isRead
  split at isRead
  next => exact absurd isRead (redirected_ne_pipeline _ _ _)
  next whole =>
    refine ⟨Text.splitOnce?_eq_none_iff.mp whole, ?_⟩
    cases areStages : stages (Text.splitOn '|' line) with
    | error fault => simp [areStages, Except.map] at isRead
    | ok stageWords =>
        have same : stageWords = read := by simpa [areStages, Except.map] using isRead
        rw [← same, length_stages areStages, Text.length_splitOn]

theorem parseChars_eq_stage {line : List Char} (whole : ¬ redirection <:+: line)
    (noBar : '|' ∉ line) :
    parseChars line = (stage line).map fun stageWords => pipeline [stageWords] := by
  rw [parseChars, Text.splitOnce?_eq_none_iff.mpr whole, Text.splitOn_eq_singleton noBar]
  dsimp only
  rw [stages, stages]
  cases stage line <;> rfl

theorem stage_lineOf (someWord : written ≠ []) (notEmpty : ∀ parts ∈ written, wordOf parts ≠ "") :
    stage (lineOf written) = .ok (written.map wordOf) := by
  obtain ⟨⟨first, rest, isFirst, starts⟩, middle, last, isLast, ends⟩ :=
    ends_lineOf notEmpty someWord
  have trimmed := Text.trimChars_eq_self ⟨rest, starts⟩ ends isFirst.isBlank isLast.isBlank
  obtain ⟨parts, others, rfl⟩ := List.exists_cons_of_ne_nil someWord
  rw [stage, trimmed, words_lineOf notEmpty]
  rfl

/-- A line of words in quotes is read as one command of these words exactly if no part holds a `|`
or a ` > `. -/
theorem parse_quoted_iff (someWord : written ≠ [])
    (notEmpty : ∀ parts ∈ written, wordOf parts ≠ "") :
    parse (String.ofList (lineOf written)) = .ok (.pipeline [written.map wordOf]) ↔
      ∀ parts ∈ written, ∀ part ∈ parts,
        '|' ∉ part.inner ∧ ¬ redirection <:+: part.inner := by
  rw [parse, String.toList_ofList]
  constructor
  · intro isRead parts isWord part isPart
    obtain ⟨whole, pieces⟩ := length_of_parseChars isRead
    have noBar : '|' ∉ lineOf written := List.count_eq_zero.mp (Nat.succ.inj pieces).symm
    constructor
    · exact fun bar => noBar (bar_mem_lineOf.mpr ⟨parts, isWord, part, isPart, bar⟩)
    · intro cut
      exact whole ((redirection_infix_lineOf notEmpty).mpr ⟨parts, isWord, part, isPart, cut⟩)
  · intro plain
    have noBar : '|' ∉ lineOf written := by
      intro present
      obtain ⟨parts, isWord, part, isPart, bar⟩ := bar_mem_lineOf.mp present
      exact (plain parts isWord part isPart).1 bar
    have whole : ¬ redirection <:+: lineOf written := by
      intro present
      obtain ⟨parts, isWord, part, isPart, cut⟩ := (redirection_infix_lineOf notEmpty).mp present
      exact (plain parts isWord part isPart).2 cut
    rw [parseChars_eq_stage whole noBar, stage_lineOf someWord notEmpty]
    rfl

/-- Both kinds of quotes, around several characters and around one. -/
theorem parse_quoted_redirection :
    let double (inner : List Char) (absent : '"' ∉ inner) : QuotedPart :=
      ⟨'"', inner, Or.inl rfl, absent⟩
    let single (inner : List Char) (absent : '\'' ∉ inner) : QuotedPart :=
      ⟨'\'', inner, Or.inr rfl, absent⟩
    let written := [[double "echo".toList (by decide)],
      [single "a >".toList (by decide), double " ".toList (by decide),
        single "\"b\"".toList (by decide)]]
    written ≠ [] ∧ (∀ parts ∈ written, wordOf parts ≠ "") ∧
      parse (String.ofList (lineOf written)) = .ok (.pipeline [["echo", "a > \"b\""]]) := by
  intro double single written
  have someWord : written ≠ [] := List.cons_ne_nil _ _
  have notEmpty : ∀ parts ∈ written, wordOf parts ≠ "" := by decide
  exact ⟨someWord, notEmpty, (parse_quoted_iff someWord notEmpty).mpr (by decide)⟩

/-- A `|` in quotes leaves a stage without words. -/
theorem not_forall_parse_quoted : ¬ ∀ written : List (List QuotedPart), written ≠ [] →
    (∀ parts ∈ written, wordOf parts ≠ "") →
      parse (String.ofList (lineOf written)) = .ok (.pipeline [written.map wordOf]) := by
  intro always
  obtain ⟨parts, isWord, isText, -⟩ := exists_textOf_eq_quoted "|"
  have isRead := always [parts] (List.cons_ne_nil _ _) (by simp [isWord])
  rw [lineOf_singleton, isText, List.map_singleton, isWord] at isRead
  have fails : parse (String.ofList (quoted "|")) = .error .emptyStage := by
    rw [parse, String.toList_ofList]
    rfl
  rw [fails] at isRead
  cases isRead

end Line

end TreeShell
