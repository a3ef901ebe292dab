import Mathlib.Data.List.DropRight
import TreeShell.Proofs.EntryCompletion
import TreeShell.Proofs.SpacedWords

/-!
# Reading a completed line

A line is completed by putting the rest of a name behind the input as it is, whereas a line that is
run is cut at `|` and ` > ` first and then read with its quotes. Both agree on the last word of a
completed line exactly if nothing in front of it cuts the line or leaves a quote open, the word
itself needs no quotes and nothing of it is lost when the line is trimmed.
-/

namespace TreeShell

namespace Text

/-- A part that ends with a character does not reach into a text without that character. -/
theorem infix_append_iff_of_notMem {part front back : List Char} {last : Char}
    (ends : part.getLast? = some last) (absent : last ∉ back) :
    part <:+: front ++ back ↔ part <:+: front := by
  obtain ⟨most, rfl⟩ := List.getLast?_eq_some_iff.mp ends
  constructor
  · intro stands
    rcases List.infix_append_iff.mp stands with inFront | inBack | across
    · exact inFront
    · exact absurd (inBack.subset (by simp)) absent
    · obtain ⟨before, after, split, inFront, inBack⟩ := across
      rcases List.eq_nil_or_concat after with rfl | ⟨middle, c, rfl⟩
      · rw [List.append_nil] at split
        exact split ▸ inFront.isInfix
      · have isLast : last = c := by
          have sameLast := congrArg List.getLast? split
          simpa using sameLast
        exact absurd (inBack.subset (by simp [isLast])) absent
  · exact fun inFront => inFront.trans (List.prefix_append front back).isInfix

theorem trimChars_prefix (text : List Char) : trimChars text <+: trimStart text := by
  rw [trimChars, trimEnd, ← List.reverse_suffix, List.reverse_reverse]
  exact List.dropWhile_suffix _

theorem trimStart_append (front back : List Char) : trimStart (front ++ back) =
    if trimStart front = [] then trimStart back else trimStart front ++ back := by
  unfold trimStart
  rw [List.dropWhile_append]
  by_cases empty : List.dropWhile isBlank front = [] <;> simp [empty]

theorem trimStart_eq_self_iff {text : List Char} :
    trimStart text = text ↔ ∀ first, text.head? = some first → isBlank first = false := by
  cases text with
  | nil => simp [trimStart]
  | cons first rest => simp [trimStart, List.dropWhile_eq_self_iff]

theorem trimEnd_eq_self_iff {text : List Char} :
    trimEnd text = text ↔ ∀ last, text.getLast? = some last → isBlank last = false := by
  rw [← List.head?_reverse, ← trimStart_eq_self_iff, trimEnd, trimStart, List.reverse_eq_iff]

theorem trimStart_trimStart (text : List Char) : trimStart (trimStart text) = trimStart text :=
  List.dropWhile_idempotent isBlank text

theorem getLast?_trimStart {text : List Char} {last : Char}
    (ends : text = [] ∨ text.getLast? = some last) :
    trimStart text = [] ∨ (trimStart text).getLast? = some last := by
  refine or_iff_not_imp_left.mpr fun notEmpty => ?_
  obtain ⟨blanks, isText⟩ : trimStart text <:+ text := List.dropWhile_suffix _
  have someChar : text ≠ [] := by
    rintro rfl
    exact notEmpty rfl
  have sameLast := List.getLast?_append_of_ne_nil blanks notEmpty
  rw [isText, ends.resolve_left someChar] at sameLast
  exact sameLast.symm

/-- Where the white space around a text is only that at its start. -/
theorem trimChars_append_eq_iff {front back : List Char} (someChar : back ≠ []) :
    trimChars (front ++ back) = trimStart front ++ back ↔
      (trimStart front = [] → ∀ first, back.head? = some first → isBlank first = false) ∧
        ∀ last, back.getLast? = some last → isBlank last = false := by
  rw [trimChars, trimStart_append]
  split
  next empty =>
    simp only [empty, List.nil_append, true_imp_iff]
    rw [← trimStart_eq_self_iff, ← trimEnd_eq_self_iff]
    constructor
    · intro whole
      have isSuffix : trimStart back <:+ back := List.dropWhile_suffix _
      have isPrefix := trimChars_prefix back
      rw [trimChars, whole] at isPrefix
      have starts := isSuffix.eq_of_length_le isPrefix.length_le
      exact ⟨starts, by rwa [starts] at whole⟩
    · rintro ⟨starts, ends⟩
      rw [starts, ends]
  next notEmpty =>
    rw [trimEnd_eq_self_iff, List.getLast?_append_of_ne_nil _ someChar]
    simp [notEmpty]

end Text

namespace Line

/-- A character that is part of a word without quotes. -/
def IsPlain (c : Char) : Prop :=
  ¬ IsQuote c ∧ ¬ (c = ' ' ∨ c = '\t')

namespace WordState

/-- The characters that are in the words. -/
def kept (state : WordState) : List Char :=
  state.words.flatMap String.toList

theorem words_eq (state : WordState) : state.words = state.finished.reverse ++
    if state.pending = [] then [] else [String.ofList state.pending.reverse] := by
  unfold words finish
  split
  next empty => simp [empty]
  next notEmpty => rw [if_neg notEmpty, List.reverse_cons]

theorem kept_eq (state : WordState) :
    state.kept = state.finished.reverse.flatMap String.toList ++ state.pending.reverse := by
  rw [kept, words_eq, List.flatMap_append]
  split
  next empty => simp [empty]
  next => simp

theorem kept_finish (state : WordState) : state.finish.kept = state.kept := by
  rw [kept_eq, kept_eq, finish]
  split
  next => rfl
  next => simp

theorem quote_finish (state : WordState) : state.finish.quote = state.quote := by
  unfold finish
  split <;> rfl

/-- A character is taken into the word, or nothing is kept of it. -/
theorem step_cases (state : WordState) (c : Char) :
    (state.step c = { state with pending := c :: state.pending } ∧
      (state.quote = none → IsPlain c)) ∨ (state.step c).kept = state.kept := by
  unfold step
  split
  next opening isQuoted =>
    split
    · exact Or.inr (by rw [kept_eq, kept_eq])
    · exact Or.inl ⟨rfl, fun unquoted => by cases isQuoted.symm.trans unquoted⟩
  next =>
    split
    · exact Or.inr (by rw [kept_eq, kept_eq])
    next noQuote =>
      split
      · exact Or.inr state.kept_finish
      next noGap => exact Or.inl ⟨rfl, fun _ => ⟨noQuote, noGap⟩⟩

theorem length_kept_step (state : WordState) (c : Char) :
    state.kept.length ≤ (state.step c).kept.length ∧
      (state.step c).kept.length ≤ state.kept.length + 1 := by
  rcases state.step_cases c with ⟨taken, -⟩ | same
  · rw [taken, kept_eq, kept_eq]
    simp only [List.length_append, List.length_reverse, List.length_cons]
    omega
  · rw [same]
    omega

theorem length_kept_foldl_step (state : WordState) (text : List Char) :
    state.kept.length ≤ (text.foldl step state).kept.length ∧
      (text.foldl step state).kept.length ≤ state.kept.length + text.length := by
  induction text generalizing state with
  | nil => simp
  | cons c rest ih =>
      have first := state.length_kept_step c
      have later := ih (state.step c)
      rw [List.foldl_cons, List.length_cons]
      omega

/-- If all characters of a text are kept, they are taken into the word that was begun. -/
theorem foldl_step_of_length {state : WordState} {text : List Char}
    (all : (text.foldl step state).kept.length = state.kept.length + text.length) :
    text.foldl step state = { state with pending := text.reverse ++ state.pending } ∧
      (state.quote = none → ∀ c ∈ text, IsPlain c) := by
  induction text generalizing state with
  | nil => exact ⟨rfl, fun _ _ isMember => absurd isMember List.not_mem_nil⟩
  | cons c rest ih =>
      have later := (state.step c).length_kept_foldl_step rest
      have first := state.length_kept_step c
      rw [List.foldl_cons, List.length_cons] at all
      rcases state.step_cases c with ⟨taken, plain⟩ | dropped
      · obtain ⟨restTaken, restPlain⟩ := @ih (state.step c) (by omega)
        rw [taken] at restTaken restPlain
        refine ⟨?_, fun unquoted => List.forall_mem_cons.mpr ⟨plain unquoted, restPlain unquoted⟩⟩
        rw [List.foldl_cons, taken, restTaken]
        simp
      · rw [dropped] at later
        omega

theorem foldl_step_of_isPlain {text : List Char} (plain : ∀ c ∈ text, IsPlain c)
    (pending : List Char) (finished : List String) :
    text.foldl step ⟨none, pending, finished⟩ = ⟨none, text.reverse ++ pending, finished⟩ := by
  induction text generalizing pending with
  | nil => rfl
  | cons c rest ih =>
      obtain ⟨⟨noQuote, noGap⟩, plainRest⟩ := List.forall_mem_cons.mp plain
      have taken : step ⟨none, pending, finished⟩ c = ⟨none, c :: pending, finished⟩ :=
        (if_neg noQuote).trans (if_neg noGap)
      rw [List.foldl_cons, taken, ih plainRest]
      simp

/-- The reader is within quotes of some kind, or not within quotes. -/
def OpensQuote (state : WordState) : Prop :=
  ∀ c, state.quote = some c → IsQuote c

theorem OpensQuote.step {state : WordState} (opens : state.OpensQuote) (c : Char) :
    (state.step c).OpensQuote := by
  unfold WordState.step
  split
  next opening isQuoted =>
    split
    · intro _ isOpen
      cases isOpen
    · exact opens
  next =>
    split
    next isQuote =>
      intro _ isOpen
      cases isOpen
      exact isQuote
    next =>
      split
      · rw [OpensQuote, quote_finish]
        exact opens
      · exact opens

theorem opensQuote_foldl_step (text : List Char) : (text.foldl step {}).OpensQuote := by
  have opens {state : WordState} (opens : state.OpensQuote) :
      (text.foldl step state).OpensQuote := by
    induction text generalizing state with
    | nil => exact opens
    | cons c rest ih => exact ih (opens.step c)
  exact opens fun _ isOpen => by cases isOpen

/-- Behind a blank a word is begun exactly if the blank is in quotes. -/
theorem pending_eq_nil_iff_quote {front : List Char}
    (ends : front = [] ∨ front.getLast? = some ' ') :
    (front.foldl step {}).pending = [] ↔ (front.foldl step {}).quote = none := by
  rcases ends with rfl | ends
  · exact iff_of_true rfl rfl
  · obtain ⟨before, rfl⟩ := List.getLast?_eq_some_iff.mp ends
    have opens := opensQuote_foldl_step before
    rw [List.foldl_append]
    generalize before.foldl step {} = state at opens
    obtain ⟨quote, pending, finished⟩ := state
    cases quote with
    | none =>
        rw [List.foldl_cons, List.foldl_nil, step_of_gap (Or.inl rfl)]
        cases pending <;> exact iff_of_true rfl rfl
    | some opening =>
        have inner : ' ' ≠ opening := by
          rintro rfl
          rcases opens ' ' rfl with double | single
          · exact absurd double (by decide)
          · exact absurd single (by decide)
        have taken : step ⟨some opening, pending, finished⟩ ' ' =
            ⟨some opening, ' ' :: pending, finished⟩ := if_neg inner
        rw [List.foldl_cons, List.foldl_nil, taken]
        simp

end WordState

/-! ### Quotes that are closed -/

/-- Texts in which every quote is closed by the next one of its kind. -/
inductive Closed : List Char → Prop where
  | nil : Closed []
  | plain {c : Char} {rest : List Char} (noQuote : ¬ IsQuote c) (closed : Closed rest) :
      Closed (c :: rest)
  | quoted (part : QuotedPart) {rest : List Char} (closed : Closed rest) :
      Closed (part.text ++ rest)

theorem closed_cons_iff {c : Char} {rest : List Char} (noQuote : ¬ IsQuote c) :
    Closed (c :: rest) ↔ Closed rest := by
  constructor
  · intro closed
    generalize whole : c :: rest = text at closed
    cases closed with
    | nil => cases whole
    | plain _ closed =>
        cases whole
        exact closed
    | quoted part closed =>
        cases whole
        exact absurd part.isQuote noQuote
  · exact Closed.plain noQuote

theorem quote_step_of_not_isQuote {c : Char} (noQuote : ¬ IsQuote c) (pending : List Char)
    (finished : List String) : (WordState.step ⟨none, pending, finished⟩ c).quote = none := by
  have unquoted : WordState.step ⟨none, pending, finished⟩ c =
      if c = ' ' ∨ c = '\t' then WordState.finish ⟨none, pending, finished⟩
      else ⟨none, c :: pending, finished⟩ := if_neg noQuote
  rw [unquoted]
  split
  · exact WordState.quote_finish _
  · rfl

/-- The reader of words leaves a quote open exactly if the text does. -/
theorem closed_iff_foldl_step {text : List Char} {state : WordState}
    (unquoted : state.quote = none) :
    Closed text ↔ (text.foldl WordState.step state).quote = none := by
  constructor
  · intro closed
    induction closed generalizing state with
    | nil => exact unquoted
    | plain noQuote _ ih =>
        obtain ⟨_, pending, finished⟩ := state
        cases unquoted
        exact ih (quote_step_of_not_isQuote noQuote pending finished)
    | quoted part _ ih =>
        obtain ⟨_, pending, finished⟩ := state
        cases unquoted
        have alone : part.text = textOf [part] := by simp [textOf]
        rw [List.foldl_append, alone, foldl_step_textOf]
        exact ih rfl
  · intro ends
    -- A quoted part takes more than one character, so the induction is on the length.
    induction size : text.length using Nat.strongRecOn generalizing text state with
    | _ length ih =>
        obtain ⟨_, pending, finished⟩ := state
        cases unquoted
        cases text with
        | nil => exact .nil
        | cons c rest =>
            rw [List.foldl_cons] at ends
            by_cases isQuote : IsQuote c
            · have opens : WordState.step ⟨none, pending, finished⟩ c =
                  ⟨some c, pending, finished⟩ := if_pos isQuote
              rw [opens] at ends
              by_cases again : c ∈ rest
              · obtain ⟨inner, after, rfl, absent⟩ := List.eq_append_cons_of_mem again
                have closes : WordState.step ⟨some c, inner.reverse ++ pending, finished⟩ c =
                    ⟨none, inner.reverse ++ pending, finished⟩ := if_pos rfl
                rw [List.foldl_append, foldl_step_inner absent, List.foldl_cons, closes] at ends
                have shorter : after.length < length := by
                  rw [← size]
                  simp
                  omega
                have whole : c :: (inner ++ c :: after) =
                    QuotedPart.text ⟨c, inner, isQuote, absent⟩ ++ after := by
                  simp [QuotedPart.text]
                rw [whole]
                exact .quoted _ (ih _ shorter rfl ends rfl)
              · rw [foldl_step_inner again] at ends
                cases ends
            · have shorter : rest.length < length := by
                rw [← size]
                exact Nat.lt_succ_self _
              have stays := quote_step_of_not_isQuote isQuote pending finished
              exact .plain isQuote (ih _ shorter stays ends rfl)

theorem closed_trimStart_iff {text : List Char} : Closed (Text.trimStart text) ↔ Closed text := by
  induction text with
  | nil => rfl
  | cons c rest ih =>
      by_cases blank : Text.isBlank c = true
      · have noQuote : ¬ IsQuote c := fun isQuote => by simp [isQuote.isBlank] at blank
        rw [closed_cons_iff noQuote, ← ih]
        simp [Text.trimStart, blank]
      · simp [Text.trimStart, blank]

/-! ### Reading a word behind a front -/

/-- A word behind a blank is read as it is exactly if no quote is open and none is needed. -/
theorem words_append_eq_iff {front word : List Char}
    (ends : front = [] ∨ front.getLast? = some ' ') (someChar : word ≠ []) :
    words (front ++ word) = words front ++ [String.ofList word] ↔
      Closed front ∧ ∀ c ∈ word, IsPlain c := by
  rw [@closed_iff_foldl_step front {} rfl]
  have isBegun := WordState.pending_eq_nil_iff_quote ends
  unfold words
  rw [List.foldl_append]
  generalize front.foldl WordState.step {} = state at isBegun
  obtain ⟨quote, pending, finished⟩ := state
  have notEmpty : word.reverse ++ pending ≠ [] := by simp [someChar]
  constructor
  · intro same
    have all : (word.foldl WordState.step ⟨quote, pending, finished⟩).kept.length =
        (WordState.kept ⟨quote, pending, finished⟩).length + word.length := by
      rw [WordState.kept, WordState.kept, same]
      simp
    obtain ⟨taken, plain⟩ := WordState.foldl_step_of_length all
    rw [taken, WordState.words_eq, WordState.words_eq, if_neg notEmpty] at same
    have notBegun : pending = [] := by
      by_contra begun
      rw [if_neg begun] at same
      simpa using congrArg List.length same
    exact ⟨isBegun.mp notBegun, plain (isBegun.mp notBegun)⟩
  · rintro ⟨unquoted, plain⟩
    have notBegun := isBegun.mpr unquoted
    dsimp only at unquoted notBegun
    subst unquoted notBegun
    rw [WordState.foldl_step_of_isPlain plain, WordState.words_eq, WordState.words_eq,
      if_neg notEmpty]
    simp

/-- What is in the words of a text grows with the text, by no more than the text. -/
theorem length_words_append (front back : List Char) :
    ((words front).flatMap String.toList).length ≤
        ((words (front ++ back)).flatMap String.toList).length ∧
      ((words (front ++ back)).flatMap String.toList).length ≤
        ((words front).flatMap String.toList).length + back.length := by
  have grows := (front.foldl WordState.step {}).length_kept_foldl_step back
  rwa [← List.foldl_append] at grows

/-- A word that is read as it is has lost nothing when white space was cut away. -/
theorem trimChars_append_of_words {front word : List Char} (someChar : word ≠ [])
    (same : words (Text.trimChars (front ++ word)) =
      words (Text.trimStart front) ++ [String.ofList word]) :
    Text.trimChars (front ++ word) = Text.trimStart front ++ word := by
  have all : ((words (Text.trimChars (front ++ word))).flatMap String.toList).length =
      ((words (Text.trimStart front)).flatMap String.toList).length + word.length := by
    rw [same]
    simp
  have isPrefix := Text.trimChars_prefix (front ++ word)
  rw [Text.trimStart_append] at isPrefix
  split at isPrefix
  next empty =>
    have isInfix : Text.trimChars (front ++ word) <:+: word :=
      isPrefix.isInfix.trans (List.dropWhile_suffix _).isInfix
    have bound := (length_words_append [] (Text.trimChars (front ++ word))).2
    rw [List.nil_append, all, empty] at bound
    rw [empty, List.nil_append]
    exact isInfix.eq_of_length_le (by omega)
  next =>
    obtain ⟨most, last, rfl⟩ : ∃ most last, word = most ++ [last] :=
      ⟨_, _, (List.dropLast_append_getLast someChar).symm⟩
    rw [← List.append_assoc (Text.trimStart front), List.prefix_concat_iff] at isPrefix
    rcases isPrefix with whole | ⟨rest, less⟩
    · rw [whole, List.append_assoc]
    · have short := (length_words_append (Text.trimChars (front ++ (most ++ [last]))) rest).1
      have bound := (length_words_append (Text.trimStart front) most).2
      rw [less] at short
      rw [List.length_append, List.length_singleton] at all
      omega

/-- A front that does not cut the line and leaves no quote open, and a word that needs no quotes and
loses nothing when the line is trimmed. -/
structure ReadsOn (front word : List Char) : Prop where
  closed : Closed front
  noBar : '|' ∉ front ++ word
  noRedirection : ¬ redirection <:+: front
  plain : ∀ c ∈ word, IsPlain c
  starts : Text.trimStart front = [] → ∀ first, word.head? = some first →
    Text.isBlank first = false
  ends : ∀ last, word.getLast? = some last → Text.isBlank last = false

theorem words_trimChars_append_iff {front word : List Char}
    (ends : front = [] ∨ front.getLast? = some ' ') (someChar : word ≠ []) :
    words (Text.trimChars (front ++ word)) =
        words (Text.trimStart front) ++ [String.ofList word] ↔
      (Closed front ∧ ∀ c ∈ word, IsPlain c) ∧
        Text.trimChars (front ++ word) = Text.trimStart front ++ word := by
  rw [← closed_trimStart_iff, ← words_append_eq_iff (Text.getLast?_trimStart ends) someChar]
  constructor
  · intro same
    have trimmed := trimChars_append_of_words someChar same
    exact ⟨by rwa [trimmed] at same, trimmed⟩
  · rintro ⟨same, trimmed⟩
    rw [trimmed, same]

/-- A line is read as the words of its front and a last word exactly if the last word is written as
it is read and nothing in front of it changes its reading. -/
theorem parseChars_append_iff {front word : List Char}
    (ends : front = [] ∨ front.getLast? = some ' ') (someChar : word ≠ []) :
    parseChars (front ++ word) =
        .ok (.pipeline [words (Text.trimStart front) ++ [String.ofList word]]) ↔
      ReadsOn front word := by
  have isStage {text : List Char} (noBar : '|' ∉ text) (whole : ¬ redirection <:+: text)
      {read : List String} (someWord : read ≠ []) :
      parseChars text = .ok (.pipeline [read]) ↔ words (Text.trimChars text) = read := by
    rw [parseChars_eq_stage whole noBar, stage]
    cases areWords : words (Text.trimChars text) with
    | nil => simp [Except.map, someWord.symm]
    | cons first rest => simp [Except.map]
  have someWord : words (Text.trimStart front) ++ [String.ofList word] ≠ [] := by simp
  have lastOfRedirection : redirection.getLast? = some ' ' := by decide
  constructor
  · intro isRead
    obtain ⟨whole, pieces⟩ := length_of_parseChars isRead
    have noBar : '|' ∉ front ++ word := List.count_eq_zero.mp (Nat.succ.inj pieces).symm
    have same := (isStage noBar whole someWord).mp isRead
    obtain ⟨⟨closed, plain⟩, trimmed⟩ := (words_trimChars_append_iff ends someChar).mp same
    obtain ⟨startsPlain, endsPlain⟩ := (Text.trimChars_append_eq_iff someChar).mp trimmed
    exact ⟨closed, noBar, fun cut => whole (cut.trans (List.prefix_append _ _).isInfix), plain,
      startsPlain, endsPlain⟩
  · intro reads
    have noBlank : ' ' ∉ word := fun blank => (reads.plain ' ' blank).2 (Or.inl rfl)
    have whole : ¬ redirection <:+: front ++ word := fun cut => reads.noRedirection
      ((Text.infix_append_iff_of_notMem lastOfRedirection noBlank).mp cut)
    refine (isStage reads.noBar whole someWord).mpr ?_
    exact (words_trimChars_append_iff ends someChar).mpr ⟨⟨reads.closed, reads.plain⟩,
      (Text.trimChars_append_eq_iff someChar).mpr ⟨reads.starts, reads.ends⟩⟩

/-- White space at the start of a line makes no difference. -/
theorem ReadsOn.trimStart {front word : List Char} (reads : ReadsOn front word) :
    ReadsOn (Text.trimStart front) word where
  closed := closed_trimStart_iff.mpr reads.closed
  noBar := fun bar => reads.noBar <| by
    have isSuffix : Text.trimStart front <:+ front := List.dropWhile_suffix _
    exact (List.mem_append.mp bar).elim
      (fun inFront => List.mem_append_left _ (isSuffix.subset inFront))
      (List.mem_append_right _)
  noRedirection := fun cut => reads.noRedirection (cut.trans (List.dropWhile_suffix _).isInfix)
  plain := reads.plain
  starts := by
    rw [Text.trimStart_trimStart]
    exact reads.starts
  ends := reads.ends

end Line

open Completion

/-- How a line is read in which an input is completed to an entry. -/
structure Volume.ReadsEntry (volume : Volume) (asked : EntryInput) (line : String)
    (entry : String × Node) : Prop where
  only : ∀ other, volume.Offers asked other ↔ other = entry
  isLine : line = asked.front ++ asked.completedWord entry
  resolve : volume.resolve (asked.completedWord entry) = volume.searched asked ++ [entry.1]
  parse : Line.parse line = .ok (.pipeline
      [Line.words (Text.trimStart asked.front.toList) ++ [asked.completedWord entry]]) ↔
    Line.ReadsOn asked.front.toList (asked.completedWord entry).toList
  parseTrimmed : Line.ReadsOn asked.front.toList (asked.completedWord entry).toList →
    Line.parse (Text.trim line) = Line.parse line

theorem Volume.WellFormed.readsEntry {times : Instant → Prop} {volume : Volume}
    (wellFormed : volume.WellFormed times) {asked : EntryInput} {line : String}
    (completed : volume.complete asked.text = .line line) :
    ∃ entry, volume.ReadsEntry asked line entry := by
  have completes := wellFormed.completes asked
  obtain ⟨entry, only, rfl⟩ := (completes.line line).mp completed
  have offers := (only entry).mpr rfl
  have someChar : (asked.completedWord entry).toList ≠ [] := by
    have someName := (wellFormed.isName_of_offers offers).1
    unfold EntryInput.completedWord marked
    split <;> simp [someName]
  have parse (front : List Char) (ends : front = [] ∨ front.getLast? = some ' ') :
      Line.parseChars (front ++ (asked.completedWord entry).toList) = .ok (.pipeline
        [Line.words (Text.trimStart front) ++ [asked.completedWord entry]]) ↔
        Line.ReadsOn front (asked.completedWord entry).toList := by
    simpa using Line.parseChars_append_iff ends someChar
  refine ⟨entry, only, rfl, completes.resolve entry offers, ?_, fun reads => ?_⟩
  · rw [Line.parse, String.toList_append]
    exact parse _ (Or.inr asked.endsFront)
  · have trimmed := (Text.trimChars_append_eq_iff someChar).mpr ⟨reads.starts, reads.ends⟩
    have whole := (parse _ (Or.inr asked.endsFront)).mpr reads
    have same := (parse _ (Text.getLast?_trimStart (Or.inr asked.endsFront))).mpr reads.trimStart
    rw [Text.trimStart_trimStart] at same
    rw [Text.trim, Line.parse, Line.parse, String.toList_append, String.toList_ofList, trimmed,
      same, whole]

/-- In every state of a session a line that an input is completed to is read as one command whose
last word is the word that was completed, and names the entry, exactly if neither the input before
this word cuts the line or leaves a quote open nor the word needs quotes or is trimmed. -/
theorem Event.readsEntry_run (opened : Instant) (store : Store) (storageKey home : String)
    (events : List Event) :
    (∀ input : String, ' ' ∈ input.toList → ∃ asked : EntryInput, asked.text = input) ∧
      ∀ (asked : EntryInput) (line : String),
        (run events (Volume.load opened store storageKey home)).complete asked.text =
            .line line →
          ∃ entry, (run events (Volume.load opened store storageKey home)).ReadsEntry
            asked line entry :=
  ⟨fun _ blank => exists_text_eq blank, fun _ _ completed =>
    (wellFormed_run_load opened store storageKey home events).readsEntry completed⟩

/-- Blanks and a quoted operand stand in front, and a directory is completed with its slash. -/
theorem Event.readsEntry_run_drafts :
    let volume := run [.operate ⟨60, 0⟩ (.createDirectory "Documents/drafts")]
      (Volume.load ⟨0, 0⟩ (.memory []) "fs" "/home/user")
    let line := "  cp 'a b' Documents/drafts/"
    volume.complete "  cp 'a b' Documents/d" = .line line ∧
      Line.parse line = .ok (.pipeline [["cp", "a b", "Documents/drafts/"]]) ∧
      Line.parse (Text.trim line) = Line.parse line ∧
      ∃ node, volume.root.find? (volume.resolve "Documents/drafts/") = some node := by
  intro volume line
  let asked : EntryInput :=
    { front := "  cp 'a b' ", directory := "Documents/", start := "d", endsFront := by decide
      endsDirectory := Or.inr (by decide), noBlank := by decide, noSlash := by decide }
  have unquoted : (asked.front.toList.foldl Line.WordState.step {}).quote = none := by decide
  have reads : Line.ReadsOn asked.front.toList "Documents/drafts/".toList :=
    { closed := (Line.closed_iff_foldl_step rfl).mpr unquoted
      noBar := by decide
      noRedirection := fun cut => by
        have arrow : '>' ∈ asked.front.toList := cut.subset (by decide)
        revert arrow
        decide
      plain := by simp [Line.IsPlain, Line.IsQuote]
      starts := fun allBlank => absurd allBlank (by decide)
      ends := fun last isLast => by
        obtain rfl : '/' = last := by simpa using isLast
        decide }
  have completed : volume.complete asked.text = .line line := by decide +kernel
  obtain ⟨entry, readsEntry⟩ := (readsEntry_run ⟨0, 0⟩ (.memory []) "fs" "/home/user"
    [.operate ⟨60, 0⟩ (.createDirectory "Documents/drafts")]).2 asked line completed
  have isLine : asked.front ++ asked.completedWord entry = asked.front ++ "Documents/drafts/" :=
    readsEntry.isLine.symm
  have isWord : asked.completedWord entry = "Documents/drafts/" :=
    (String.append_right_inj _).mp isLine
  obtain ⟨only, -, resolve, parse, parseTrimmed⟩ := readsEntry
  rw [isWord] at resolve parse parseTrimmed
  have words : Line.words (Text.trimStart asked.front.toList) = ["cp", "a b"] := by decide
  rw [words] at parse
  have found := ((only entry).mpr rfl).1
  rw [← resolve] at found
  exact ⟨completed, parse.mpr reads, parseTrimmed reads, entry.2, found⟩

/-- A name with a blank is completed as it is and read as two words. -/
theorem Event.not_forall_readsEntry_run : ¬ ∀ (opened : Instant) (store : Store)
    (storageKey home : String) (events : List Event) (asked : EntryInput) (line : String),
    let volume := run events (Volume.load opened store storageKey home)
    Line.words asked.front.toList ≠ [] → volume.complete asked.text = .line line →
      ∃ (earlier : List String) (word : String) (entry : String × Node),
        Line.parse line = .ok (.pipeline [earlier ++ [word]]) ∧
          (∀ other, volume.Offers asked other ↔ other = entry) ∧
          volume.resolve word = volume.searched asked ++ [entry.1] := by
  intro always
  let asked : EntryInput :=
    { front := "cat ", directory := "", start := "z", endsFront := by decide
      endsDirectory := Or.inl rfl, noBlank := by decide, noSlash := by decide }
  obtain ⟨earlier, word, entry, isRead, only, sameEntry⟩ := always ⟨0, 0⟩ (.memory []) "fs"
    "/home/user" [.operate ⟨0, 0⟩ (.createFile "zed two" "keep")] asked "cat zed two" (by decide)
    (by decide +kernel)
  have isParsed : Line.parse "cat zed two" = .ok (.pipeline [["cat", "zed"] ++ ["two"]]) := by cbv
  rw [isParsed] at isRead
  have sameWords : ["cat", "zed"] ++ ["two"] = earlier ++ [word] := by simpa using isRead
  obtain ⟨-, sameWord⟩ := List.append_inj' sameWords rfl
  obtain rfl : "two" = word := by simpa using sameWord
  have sameName := congrArg List.getLast? sameEntry
  rw [List.getLast?_append_of_ne_nil _ (List.cons_ne_nil _ _)] at sameName
  have lastOfTwo : ((run [.operate ⟨0, 0⟩ (.createFile "zed two" "keep")]
      (Volume.load ⟨0, 0⟩ (.memory []) "fs" "/home/user")).resolve "two").getLast? =
        some "two" := by decide +kernel
  rw [lastOfTwo] at sameName
  have isTwo : "two" = entry.1 := by simpa using sameName
  have goesOn := ((only entry).mpr rfl).2
  rw [← isTwo] at goesOn
  revert goesOn
  decide

end TreeShell
