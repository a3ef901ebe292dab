import TreeShell.Line.Run
import TreeShell.Proofs.Digits
import TreeShell.Proofs.Lines

/-!
# Filters of lines

Five commands answer lines that they select from one text, each in its own way. What the next stage
of a pipeline reads are these lines as they are after being joined and cut again: an empty last line
is not handed on, and neither is a carriage return at the end of a line before another one.
-/

namespace TreeShell

/-! ### Selected lines hold no line feed -/

namespace Text

variable {lines : List String}

theorem AreLines.of_subset (areLines : AreLines lines) {selected : List String}
    (isPart : selected ⊆ lines) : AreLines selected :=
  fun line member => areLines line (isPart member)

/-- Lines may get texts without line feeds in front. -/
theorem areLines_map {α : Type} {shown : α → String} {items : List α}
    (each : ∀ item ∈ items, ∃ front line, shown item = front ++ line ∧ '\n' ∉ front.toList ∧
      '\n' ∉ line.toList) : AreLines (items.map shown) := by
  intro text member
  obtain ⟨item, isItem, rfl⟩ := List.mem_map.mp member
  obtain ⟨front, line, same, frontFree, lineFree⟩ := each item isItem
  rw [same, String.toList_append, List.mem_append]
  exact fun feed => feed.elim frontFree lineFree

theorem feed_notMem_toString (number : Nat) : '\n' ∉ (toString number).toList := by
  intro feed
  have inDigits : '\n' ∈ Nat.toDigits 10 number := by
    simpa [Nat.toString_eq_repr, Nat.toList_repr] using feed
  have isDigit := Nat.isDigit_of_mem_toDigits (by decide) (by decide) inDigits
  revert isDigit
  decide

theorem feed_notMem_padLeft {text : String} (free : '\n' ∉ text.toList) (width : Nat) :
    '\n' ∉ (padLeft width text).toList := by
  rw [padLeft, String.toList_append, String.toList_ofList, List.mem_append, not_or]
  exact ⟨fun feed => absurd (List.eq_of_mem_replicate feed) (by decide), free⟩

end Text

namespace Run

theorem line_mem_addLine {line : String} {runs : List Run} {run : Run}
    (member : run ∈ addLine line runs) :
    run.line = line ∨ ∃ other ∈ runs, run.line = other.line := by
  cases runs with
  | nil => exact Or.inl (congrArg Run.line (List.mem_singleton.mp member))
  | cons first rest =>
      simp only [addLine] at member
      split at member
      · rcases List.mem_cons.mp member with rfl | later
        · exact Or.inr ⟨first, List.mem_cons_self, rfl⟩
        · exact Or.inr ⟨run, List.mem_cons_of_mem _ later, rfl⟩
      · rcases List.mem_cons.mp member with rfl | later
        · exact Or.inl rfl
        · exact Or.inr ⟨run, later, rfl⟩

theorem line_mem_of_mem_ofLines {lines : List String} {run : Run} (member : run ∈ ofLines lines) :
    run.line ∈ lines := by
  induction lines generalizing run with
  | nil => cases member
  | cons line rest ih =>
      rcases line_mem_addLine member with same | ⟨other, isOther, same⟩
      · exact same ▸ List.mem_cons_self
      · exact same ▸ List.mem_cons_of_mem _ (ih isOther)

end Run

theorem LineOrder.sort_subset (order : LineOrder) (lines : List String) :
    order.sort lines ⊆ lines := by
  have directed : ∀ {line}, (line ∈ if order.reversed then
      (lines.mergeSort order.precedes).reverse else lines.mergeSort order.precedes) →
      line ∈ lines := by
    intro line member
    split at member
    · exact List.mem_mergeSort.mp (List.mem_reverse.mp member)
    · exact List.mem_mergeSort.mp member
  intro line member
  unfold sort at member
  dsimp only at member
  split at member
  · obtain ⟨run, isRun, rfl⟩ := List.mem_map.mp member
    exact directed (Run.line_mem_of_mem_ofLines isRun)
  · exact directed member

theorem Search.areLines_select (search : Search) (text : String) :
    Text.AreLines (search.select text) := by
  apply Text.areLines_map
  intro ⟨line, before⟩ member
  have lineFree : '\n' ∉ line.toList := by
    refine Text.areLines_lines text line ?_
    have numbered := (List.mem_filter.mp member).1
    exact List.fst_mem_of_mem_zipIdx numbered
  dsimp only [shown]
  split
  · refine ⟨toString (before + 1) ++ ":", line, rfl, ?_, lineFree⟩
    simpa using Text.feed_notMem_toString (before + 1)
  · exact ⟨"", line, by simp, by simp, lineFree⟩

/-! ### The filters -/

/-- The commands that answer lines selected from one text. -/
inductive LineFilter where
  | head | tail | sort | uniq | grep
deriving DecidableEq, Repr

namespace LineFilter

def command : LineFilter → Command
  | head => .head
  | tail => .tail
  | sort => .sort
  | uniq => .uniq
  | grep => .grep

/-- The file that is filtered if no text is piped. -/
def file? (invocation : Invocation) : LineFilter → Option String
  | head | tail => (Excerpt.ofArguments invocation.arguments).file
  | sort | uniq => Builtin.firstOperand invocation
  | grep =>
      match invocation.operands with
      | [_, file] => some file
      | _ => none

/-- A filter is called so that it reads a text: the one that is piped, or else the one of its
file. -/
structure Reads (invocation : Invocation) (volume : Volume) (text : String)
    (filter : LineFilter) : Prop where
  pattern : filter = grep → invocation.operands ≠ []
  source : invocation.piped = some text ∨ invocation.piped = none ∧
    ∃ file, filter.file? invocation = some file ∧ volume.contentOf file = .ok text

/-- The lines that a filter selects from a text, as it shows them. -/
def select (invocation : Invocation) (text : String) : LineFilter → List String
  | head => Excerpt.first (Excerpt.ofArguments invocation.arguments).count (Text.lines text)
  | tail => Excerpt.last (Excerpt.ofArguments invocation.arguments).count (Text.lines text)
  | sort => (Builtin.sortOrder invocation).sort (Text.lines text)
  | uniq => (Run.ofLines (Text.lines text)).map (Builtin.runText (invocation.hasFlag 'c'))
  | grep =>
      Search.select
        { sought := .ofText (invocation.operands.headD "")
          inverted := invocation.hasFlag 'v'
          numbered := invocation.hasFlag 'n' } text

variable {filter : LineFilter} {invocation : Invocation} {volume : Volume} {text : String}

theorem areLines_select (filter : LineFilter) (invocation : Invocation) (text : String) :
    Text.AreLines (filter.select invocation text) := by
  have areLines := Text.areLines_lines text
  cases filter with
  | head => exact areLines.of_subset (List.take_subset _ _)
  | tail => exact areLines.of_subset (List.drop_subset _ _)
  | sort => exact areLines.of_subset (LineOrder.sort_subset _ _)
  | grep => exact Search.areLines_select _ text
  | uniq =>
      apply Text.areLines_map
      intro run member
      have lineFree := areLines run.line (Run.line_mem_of_mem_ofLines member)
      dsimp only [Builtin.runText]
      split
      · refine ⟨Text.padLeft 7 (toString run.count) ++ " ", run.line, rfl, ?_, lineFree⟩
        simpa using Text.feed_notMem_padLeft (Text.feed_notMem_toString run.count) 7
      · exact ⟨"", run.line, by simp, by simp, lineFree⟩

theorem filterInput_of_source (command : Command) {file : Option String}
    (source : invocation.piped = some text ∨ invocation.piped = none ∧
      ∃ spelling, file = some spelling ∧ volume.contentOf spelling = .ok text) :
    volume.filterInput command invocation file = .ok text := by
  unfold Volume.filterInput
  rcases source with isPiped | ⟨notPiped, spelling, rfl, isContent⟩
  · rw [isPiped]
  · simp only [notPiped, Volume.readFor, isContent]

theorem answerLines_of_source (command : Command) {file : Option String}
    (source : invocation.piped = some text ∨ invocation.piped = none ∧
      ∃ spelling, file = some spelling ∧ volume.contentOf spelling = .ok text)
    (select : String → List String) :
    Builtin.answerLines command invocation file select volume =
      .ok (.text (Text.unlines (select text))) volume := by
  simp only [Builtin.answerLines, Action.observe, filterInput_of_source command source]

theorem run_grep (reads : grep.Reads invocation volume text) : Builtin.grep invocation volume =
    .ok (.text (Text.unlines (grep.select invocation text))) volume := by
  obtain ⟨pattern, source⟩ := reads
  unfold file? at source
  unfold Builtin.grep Action.observe select
  rcases operands : invocation.operands with _ | ⟨sought, _ | ⟨file, _ | ⟨second, rest⟩⟩⟩
  · exact absurd operands (pattern rfl)
  · rw [operands] at source
    have input := filterInput_of_source .grep source
    simp only [List.head?_nil, input, List.headD_cons]
  · rw [operands] at source
    have input := filterInput_of_source .grep source
    simp only [List.head?_cons, input, List.headD_cons]
  · rw [operands] at source
    have isPiped : invocation.piped = some text :=
      source.resolve_right fun ⟨_, _, noFile, _⟩ => by cases noFile
    simp only [isPiped, List.headD_cons]

theorem run_of_reads (reads : filter.Reads invocation volume text) :
    filter.command.run invocation volume =
      .ok (.text (Text.unlines (filter.select invocation text))) volume := by
  cases filter with
  | head => exact answerLines_of_source .head reads.source _
  | tail => exact answerLines_of_source .tail reads.source _
  | sort => exact answerLines_of_source .sort reads.source _
  | uniq => exact answerLines_of_source .uniq reads.source _
  | grep => exact run_grep reads

/-! ### What the next stage reads -/

theorem runStage_command (filter : LineFilter) (context : Context) (arguments : List String)
    (piped : Option String) :
    Line.runStage context piped (filter.command.name :: arguments) =
      filter.command.run (context.invocation arguments piped) := by
  cases filter <;> rfl

theorem runStage_countLines (context : Context) (text : String) (volume : Volume) :
    Line.runStage context (some text) ["wc", "-l"] volume =
      .ok (.text (Text.padLeft 8 (toString (Text.lines text).length))) volume := by
  have named : Command.named? "wc" = some .wc := rfl
  have columns : Builtin.countColumns (context.invocation ["-l"] (some text)) (.ofText text) =
      [(Text.lines text).length] := rfl
  have input : volume.filterInput .wc (context.invocation ["-l"] (some text))
      (Builtin.firstOperand (context.invocation ["-l"] (some text))) = .ok text := rfl
  have unnamed : (context.invocation ["-l"] (some text)).piped.isSome = true := rfl
  simp only [Line.runStage, named, Command.run, Builtin.wc, Action.observe, input, columns,
    unnamed, if_true, List.map_cons, List.map_nil, List.append_nil,
    String.intercalate_singleton]

variable {context : Context} {arguments : List String} {piped : Option String}

theorem runPipeline_countLines (reads : filter.Reads (context.invocation arguments piped) volume
    text) :
    let selected := filter.select (context.invocation arguments piped) text
    Line.runPipeline context piped [filter.command.name :: arguments, ["wc", "-l"]] volume =
      .ok (.text (Text.padLeft 8 (toString (Text.handedOn selected).length))) volume := by
  intro selected
  have counted := runStage_countLines context (Text.unlines selected) volume
  rw [Text.lines_unlines (filter.areLines_select _ text)] at counted
  simp only [Line.runPipeline, runStage_command, bind, EStateM.bind, run_of_reads reads]
  exact counted

/-- A filter that reads a text answers its selected lines joined by line feeds, with none behind the
last one. The lines of this answer are the selected ones exactly if the last of them is not empty
and no other one ends with a carriage return; otherwise these carriage returns and the empty last
line are lost. So the next stage counts as many lines as were selected, but for an empty last one;
by `head` as many are selected as are asked for and there. -/
theorem lines_of_answer_iff (reads : filter.Reads (context.invocation arguments piped) volume
    text) :
    let selected := filter.select (context.invocation arguments piped) text
    filter.command.run (context.invocation arguments piped) volume =
      .ok (.text (Text.unlines selected)) volume ∧
    Text.lines (Text.unlines selected) = Text.handedOn selected ∧
    (Text.lines (Text.unlines selected) = selected ↔ selected.getLast? ≠ some "" ∧
      ∀ line ∈ selected.dropLast, line.toList.getLast? ≠ some '\r') ∧
    Line.runPipeline context piped [filter.command.name :: arguments, ["wc", "-l"]] volume =
      .ok (.text (Text.padLeft 8 (toString
        (selected.length - if selected.getLast? = some "" then 1 else 0)))) volume ∧
    (filter = head → selected.length =
      min (Excerpt.ofArguments arguments).count (Text.lines text).length) := by
  intro selected
  have cut := Text.lines_unlines (filter.areLines_select (context.invocation arguments piped) text)
  refine ⟨run_of_reads reads, cut, ?_, ?_, ?_⟩
  · rw [cut]
    exact Text.handedOn_eq_self_iff
  · rw [← Text.length_handedOn]
    exact runPipeline_countLines reads
  · rintro rfl
    exact List.length_take

/-- Repeated empty lines at the end become one, and that one is not counted. -/
theorem lines_of_answer_iff_uniq :
    let context : Context := ⟨⟨0, 0⟩, ⟨"user", "linux", ⟨0, 0⟩⟩, []⟩
    let volume := Volume.load ⟨0, 0⟩ (.memory []) "fs" "/home/user"
    let invocation := context.invocation [] (some "a\na\n\n\n")
    uniq.Reads invocation volume "a\na\n\n\n" ∧
      uniq.select invocation "a\na\n\n\n" = ["a", ""] ∧
      uniq.command.run invocation volume = .ok (.text "a\n") volume ∧
      Line.runPipeline context (some "a\na\n\n\n") [["uniq"], ["wc", "-l"]] volume =
        .ok (.text "       1") volume := by
  intro context volume invocation
  have reads : uniq.Reads invocation volume "a\na\n\n\n" := ⟨by decide, Or.inl rfl⟩
  have selected : uniq.select invocation "a\na\n\n\n" = ["a", ""] := by decide +kernel
  obtain ⟨answered, -, -, counted, -⟩ := lines_of_answer_iff reads
  rw [selected] at answered counted
  exact ⟨reads, selected, answered, counted⟩

/-- An empty first line is lost when it is the only one that `head` selects. -/
theorem not_forall_lines_of_answer : ¬ ∀ (filter : LineFilter) (invocation : Invocation)
    (volume : Volume) (text answer : String), filter.Reads invocation volume text →
      filter.command.run invocation volume = .ok (.text answer) volume →
        Text.lines answer = filter.select invocation text := by
  intro always
  let invocation : Invocation := ⟨⟨0, 0⟩, ⟨"user", "linux", ⟨0, 0⟩⟩, [], ["1"], some "\nx"⟩
  let volume := Volume.load ⟨0, 0⟩ (.memory []) "fs" "/home/user"
  have reads : head.Reads invocation volume "\nx" := ⟨by decide, Or.inl rfl⟩
  have selected : head.select invocation "\nx" = [""] := by decide +kernel
  have same := always head invocation volume "\nx" _ reads (run_of_reads reads)
  rw [selected] at same
  revert same
  decide

end LineFilter

end TreeShell
