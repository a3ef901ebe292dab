import Mathlib.Tactic.Choose
import TreeShell.Proofs.Quoting

/-!
# Words in quotes, spaced out

Words in quotes can stand apart by any blanks and tabs, with more of them around. They are read back
as they are, except that empty ones are passed over. No word that is read from a command is empty,
whatever the command, so its words can be written in quotes and read once more.
-/

namespace TreeShell.Line

def IsGap (gap : List Char) : Prop :=
  ∀ c ∈ gap, c = ' ' ∨ c = '\t'

/-- A word in quotes and the gap after it. -/
structure SpacedWord where
  parts : List QuotedPart
  gap : List Char
  isGap : IsGap gap

def SpacedWord.word (spaced : SpacedWord) : String :=
  wordOf spaced.parts

def SpacedWord.text (spaced : SpacedWord) : List Char :=
  textOf spaced.parts ++ spaced.gap

/-- Words in quotes after a gap. Only the last of them needs no gap after it. -/
structure SpacedLine where
  lead : List Char
  written : List SpacedWord
  isGap : IsGap lead
  apart : ∀ spaced ∈ written.dropLast, spaced.gap ≠ []

namespace SpacedLine

def contents (line : SpacedLine) : List String :=
  line.written.map SpacedWord.word

def text (line : SpacedLine) : List Char :=
  line.lead ++ line.written.flatMap SpacedWord.text

theorem exists_contents_eq (contents : List String) : ∃ line : SpacedLine,
    line.contents = contents ∧
      ∀ spaced ∈ line.written, ∀ part ∈ spaced.parts, part.inner.length = 1 := by
  choose parts isWord _ single using exists_textOf_eq_quoted
  have isGap : IsGap [' '] := by simp [IsGap]
  let spaced (word : String) : SpacedWord := ⟨parts word, [' '], isGap⟩
  have sameWord : SpacedWord.word ∘ spaced = id := funext isWord
  have apart : ∀ other ∈ (contents.map spaced).dropLast, other.gap ≠ [] := by
    intro other member
    obtain ⟨word, -, rfl⟩ := List.mem_map.mp ((List.dropLast_sublist _).subset member)
    exact List.cons_ne_nil _ _
  refine ⟨⟨[], contents.map spaced, by simp [IsGap], apart⟩, ?_, ?_⟩
  · rw [SpacedLine.contents, List.map_map, sameWord, List.map_id]
  · intro other member
    obtain ⟨word, -, rfl⟩ := List.mem_map.mp member
    exact single word

end SpacedLine

/-! ### Reading spaced words -/

theorem finish_toList_reverse (word : String) (quote : Option Char) (finished : List String) :
    WordState.finish ⟨quote, word.toList.reverse, finished⟩ =
      ⟨quote, [], [word].filter (· ≠ "") ++ finished⟩ := by
  by_cases isEmpty : word = ""
  · subst isEmpty
    rfl
  · rw [finish_of_ne_nil isEmpty]
    simp [isEmpty]

theorem step_of_gap {c : Char} (isGap : c = ' ' ∨ c = '\t') (pending : List Char)
    (finished : List String) :
    WordState.step ⟨none, pending, finished⟩ c = WordState.finish ⟨none, pending, finished⟩ := by
  rcases isGap with rfl | rfl <;> rfl

theorem foldl_step_gap {gap : List Char} (isGap : IsGap gap) (finished : List String) :
    gap.foldl WordState.step ⟨none, [], finished⟩ = ⟨none, [], finished⟩ := by
  induction gap with
  | nil => rfl
  | cons c gap ih =>
      obtain ⟨first, others⟩ := List.forall_mem_cons.mp isGap
      rw [List.foldl_cons, step_of_gap first]
      exact ih others

/-- A gap ends the word before it. -/
theorem foldl_step_word_gap {gap : List Char} (isGap : IsGap gap) (someGap : gap ≠ [])
    (word : String) (finished : List String) :
    gap.foldl WordState.step ⟨none, word.toList.reverse, finished⟩ =
      ⟨none, [], [word].filter (· ≠ "") ++ finished⟩ := by
  cases gap with
  | nil => exact absurd rfl someGap
  | cons c gap =>
      obtain ⟨first, others⟩ := List.forall_mem_cons.mp isGap
      rw [List.foldl_cons, step_of_gap first, finish_toList_reverse, foldl_step_gap others]

theorem words_foldl_step_gap {gap : List Char} (isGap : IsGap gap) (word : String)
    (finished : List String) :
    (gap.foldl WordState.step ⟨none, word.toList.reverse, finished⟩).words =
      finished.reverse ++ [word].filter (· ≠ "") := by
  by_cases someGap : gap = []
  · subst someGap
    rw [List.foldl_nil, WordState.words, finish_toList_reverse]
    by_cases isEmpty : word = "" <;> simp [isEmpty]
  · rw [foldl_step_word_gap isGap someGap]
    by_cases isEmpty : word = "" <;> simp [WordState.words, WordState.finish, isEmpty]

theorem words_foldl_step_written {written : List SpacedWord}
    (apart : ∀ spaced ∈ written.dropLast, spaced.gap ≠ []) (finished : List String) :
    ((written.flatMap SpacedWord.text).foldl WordState.step ⟨none, [], finished⟩).words =
      finished.reverse ++ (written.map SpacedWord.word).filter (· ≠ "") := by
  induction written generalizing finished with
  | nil => simp [WordState.words, WordState.finish]
  | cons spaced rest ih =>
      have isRead : (textOf spaced.parts).foldl WordState.step ⟨none, [], finished⟩ =
          ⟨none, spaced.word.toList.reverse, finished⟩ := by
        rw [foldl_step_textOf, List.append_nil]
        rfl
      rw [List.flatMap_cons, SpacedWord.text, List.foldl_append, List.foldl_append, isRead]
      cases rest with
      | nil => exact words_foldl_step_gap spaced.isGap spaced.word finished
      | cons next rest =>
          rw [List.dropLast_cons_cons] at apart
          obtain ⟨someGap, apartRest⟩ := List.forall_mem_cons.mp apart
          rw [foldl_step_word_gap spaced.isGap someGap, ih apartRest, List.map_cons,
            ← List.singleton_append, List.filter_append, List.reverse_append]
          by_cases isEmpty : spaced.word = "" <;> simp [isEmpty]

/-- Empty words are passed over. -/
theorem words_text (line : SpacedLine) :
    words line.text = line.contents.filter (· ≠ "") := by
  rw [words, SpacedLine.text, List.foldl_append]
  rw [foldl_step_gap line.isGap, words_foldl_step_written line.apart]
  rfl

/-! ### What is read at all -/

namespace WordState

variable {state : WordState} (noneEmpty : "" ∉ state.finished)

include noneEmpty

theorem noneEmpty_finish : "" ∉ state.finish.finished := by
  unfold finish
  split
  next => exact noneEmpty
  next notNil =>
    have someChar : String.ofList state.pending.reverse ≠ "" := by
      simpa using notNil
    simpa [someChar.symm] using noneEmpty

theorem noneEmpty_step (c : Char) : "" ∉ (state.step c).finished := by
  unfold step
  split
  next => split <;> exact noneEmpty
  next =>
    split
    next => exact noneEmpty
    next =>
      split
      next => exact noneEmpty_finish noneEmpty
      next => exact noneEmpty

theorem noneEmpty_foldl_step (command : List Char) :
    "" ∉ (command.foldl step state).finished := by
  induction command generalizing state with
  | nil => exact noneEmpty
  | cons c command ih => exact ih (noneEmpty_step noneEmpty c)

end WordState

theorem noneEmpty_words (command : List Char) : "" ∉ words command := by
  have noneEmpty : "" ∉ (command.foldl WordState.step {}).finished :=
    WordState.noneEmpty_foldl_step List.not_mem_nil command
  rw [words, WordState.words, List.mem_reverse]
  exact WordState.noneEmpty_finish noneEmpty

/-- Words that are not empty can be written in quotes, one around each character, and are read back
however they are written and spaced. The words of a command are never empty. -/
theorem words_spaced :
    (∀ contents : List String, "" ∉ contents →
      (∃ line : SpacedLine, line.contents = contents ∧
        ∀ spaced ∈ line.written, ∀ part ∈ spaced.parts, part.inner.length = 1) ∧
      ∀ line : SpacedLine, line.contents = contents → words line.text = contents) ∧
    ∀ command : List Char, "" ∉ words command ∧
      ∀ line : SpacedLine, line.contents = words command →
        words line.text = words command := by
  have readBack : ∀ contents : List String, "" ∉ contents →
      ∀ line : SpacedLine, line.contents = contents → words line.text = contents := by
    intro contents noneEmpty line same
    rw [words_text, same, List.filter_eq_self]
    intro word member
    have notEmpty : word ≠ "" := fun isEmpty => noneEmpty (isEmpty ▸ member)
    exact decide_eq_true notEmpty
  refine ⟨fun contents noneEmpty => ?_, fun command => ?_⟩
  · exact ⟨SpacedLine.exists_contents_eq contents, readBack contents noneEmpty⟩
  · exact ⟨noneEmpty_words command, readBack _ (noneEmpty_words command)⟩

/-- A command with a quote that is not closed, and its words in quotes of both kinds. -/
theorem words_spaced_unterminated : ∃ line : SpacedLine,
    line.text = "\t'echo' \t\"it'\"'s' \"open  ended\"".toList ∧
      line.contents = words "echo it\"'\"s 'open  ended".toList ∧
      words line.text = ["echo", "it's", "open  ended"] := by
  let double (inner : List Char) (absent : '"' ∉ inner) : QuotedPart :=
    ⟨'"', inner, Or.inl rfl, absent⟩
  let single (inner : List Char) (absent : '\'' ∉ inner) : QuotedPart :=
    ⟨'\'', inner, Or.inr rfl, absent⟩
  let line : SpacedLine :=
    { lead := ['\t']
      written := [⟨[single "echo".toList (by decide)], [' ', '\t'], by simp [IsGap]⟩,
        ⟨[double "it'".toList (by decide), single "s".toList (by decide)], [' '],
          by simp [IsGap]⟩,
        ⟨[double "open  ended".toList (by decide)], [], by simp [IsGap]⟩]
      isGap := by simp [IsGap]
      apart := by simp }
  have areWords : words "echo it\"'\"s 'open  ended".toList = ["echo", "it's", "open  ended"] := by
    decide
  have same : line.contents = words "echo it\"'\"s 'open  ended".toList := by
    rw [areWords]
    decide
  refine ⟨line, by decide, same, ?_⟩
  rw [(words_spaced.2 _).2 line same, areWords]

end TreeShell.Line
