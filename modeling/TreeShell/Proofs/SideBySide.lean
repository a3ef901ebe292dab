import TreeShell.Proofs.StoreBlindness

/-!
# Shells side by side

Two shells that differ in nothing but their stores, and in the keys under which these keep their
snapshots, are used in the same way. What comes of every step is the same for both: the answers,
the trees, the current paths, the prompts and the histories. Only opening a shell, and asking what
is saved, depends on the store.
-/

namespace TreeShell

namespace Shell

/-- Shells with the same history and environment and volumes that are alike. -/
structure Alike (first second : Shell) : Prop where
  volume : first.volume.Alike second.volume
  history : first.history = second.history
  environment : first.environment = second.environment

/-- Replies with the same result and the same fresh prompt, and shells that are alike. -/
structure Reply.Alike {ε α : Type} (first second : Reply ε α) : Prop where
  result : first.result = second.result
  shell : first.shell.Alike second.shell
  freshPrompt : first.freshPrompt = second.freshPrompt

variable {first second : Shell} (now : Instant)

theorem Alike.prompt_eq (alike : first.Alike second) : first.prompt = second.prompt := by
  unfold prompt
  rw [alike.environment, alike.volume.home, alike.volume.current]

theorem Alike.perform {α : Type} (alike : first.Alike second) {action : Action α}
    (blind : Blind action) :
    (first.perform action).1 = (second.perform action).1 ∧
      (first.perform action).2.Alike (second.perform action).2 := by
  unfold Shell.perform
  match action first.volume, action second.volume, blind _ _ alike.volume with
  | _, _, .ok value alikeAfter => exact ⟨rfl, alikeAfter, alike.history, alike.environment⟩
  | _, _, .error fault alikeAfter => exact ⟨rfl, alikeAfter, alike.history, alike.environment⟩

theorem Alike.operate {α : Type} (alike : first.Alike second) {operation : Change α}
    (blind : Blind operation) :
    (first.operate operation).1 = (second.operate operation).1 ∧
      (first.operate operation).2.Alike (second.operate operation).2 := by
  unfold Shell.operate
  match operation first.volume, operation second.volume, blind _ _ alike.volume with
  | _, _, .ok value alikeAfter => exact ⟨rfl, alikeAfter, alike.history, alike.environment⟩
  | _, _, .error fault alikeAfter => exact ⟨rfl, alikeAfter, alike.history, alike.environment⟩

theorem Alike.submit (alike : first.Alike second) {line : String}
    (avoids : ∀ parsed, Line.parse line = .ok parsed → parsed.Avoids .debugFs) :
    (first.submit now line).1 = (second.submit now line).1 ∧
      (first.submit now line).2.Alike (second.submit now line).2 := by
  have recorded : Shell.Alike { first with history := first.history.push line }
      { second with history := second.history.push line } :=
    ⟨alike.volume, congrArg (·.push line) alike.history, alike.environment⟩
  unfold Shell.submit
  cases isParsed : Line.parse line with
  | error fault => exact ⟨rfl, recorded⟩
  | ok parsed =>
      have sameContext : context now { first with history := first.history.push line } =
          context now { second with history := second.history.push line } := by
        unfold context
        rw [recorded.history, recorded.environment]
      dsimp only
      rw [sameContext]
      exact recorded.perform ((avoids parsed isParsed).blind_run _)

theorem Alike.execute (alike : first.Alike second) {line : String}
    (avoids : ∀ parsed, Line.parse (Text.trim line) = .ok parsed → parsed.Avoids .debugFs) :
    (first.execute now line).Alike (second.execute now line) := by
  unfold Shell.execute
  dsimp only
  by_cases blank : Text.trim line = ""
  · simp only [if_pos blank]
    exact ⟨rfl, alike, by rw [alike.prompt_eq]⟩
  · simp only [if_neg blank]
    have submitted := alike.submit now avoids
    -- With the outcomes as variables, comparing the replies does not run the line.
    generalize first.submit now (Text.trim line) = firstOutcome at submitted
    generalize second.submit now (Text.trim line) = secondOutcome at submitted
    exact ⟨submitted.1, submitted.2, by rw [submitted.2.prompt_eq]⟩

theorem Alike.importText (alike : first.Alike second) (text : String) :
    (first.importText now text).Alike (second.importText now text) := by
  obtain ⟨sameResult, alikeAfter⟩ := alike.operate (Volume.blind_importText now text)
  unfold Shell.importText
  dsimp only
  rw [sameResult]
  cases (second.operate (Volume.importText now text)).1 with
  | ok info => exact ⟨rfl, alikeAfter, congrArg some alikeAfter.prompt_eq⟩
  | error fault => exact ⟨rfl, alikeAfter, rfl⟩

theorem Alike.importChosen (alike : first.Alike second) (text : Option String) :
    (first.importChosen now text).Alike (second.importChosen now text) := by
  cases text with
  | none => exact ⟨rfl, alike, rfl⟩
  | some text =>
      have replies := alike.importText now text
      refine ⟨?_, replies.shell, replies.freshPrompt⟩
      exact congrArg (fun result => Except.ok (importMessage result)) replies.result

/-! ### Step by step -/

/-- A question that a volume answers without being changed. -/
inductive Look where
  | path (spelling : String)
  | node (spelling : String)
  | content (spelling : String)
  | entries (spelling : Option String)
  | files (pattern spelling : String)
  | snapshot
  | completion (input : String)

/-- The answer to such a question. -/
inductive Sight where
  | path (path : Path)
  | node (found : Option Node)
  | content (result : Except FileFault String)
  | entries (result : Except FileFault (Entries Node))
  | files (spellings : List String)
  | snapshot (text : String)
  | completion (completion : Completion)

def Look.sight (volume : Volume) : Look → Sight
  | path spelling => .path (volume.resolve spelling)
  | node spelling => .node (volume.node? spelling)
  | content spelling => .content (volume.contentOf spelling)
  | entries spelling => .entries (volume.listDirectory spelling)
  | files pattern spelling => .files (volume.findFiles pattern spelling)
  | snapshot => .snapshot (volume.exportText now)
  | completion input => .completion (volume.complete input)

/-- Anything that is done with a shell. -/
inductive Step where
  | execute (line : String)
  | operate (operation : Operation)
  | importText (text : String)
  | importChosen (text : Option String)
  | look (look : Look)

inductive Answer where
  | executed (result : Except CommandFault Output)
  | operated (result : Except FileFault Unit)
  | imported (result : Except FileFault SnapshotInfo)
  | chosen (result : Except Empty String)
  | seen (sight : Sight)

/-- What comes of a step: the answer, the shell after it, and the fresh prompt if one is handed
out. -/
structure Turn where
  answer : Answer
  shell : Shell
  freshPrompt : Option String := none

def Reply.turn {ε α : Type} (reply : Reply ε α) (answer : Except ε α → Answer) : Turn where
  answer := answer reply.result
  shell := reply.shell
  freshPrompt := reply.freshPrompt

def take (shell : Shell) : Step → Turn
  | .execute line => (shell.execute now line).turn .executed
  | .operate operation =>
      let (result, after) := shell.operate (operation.perform now)
      { answer := .operated result, shell := after }
  | .importText text => (shell.importText now text).turn .imported
  | .importChosen text => (shell.importChosen now text).turn .chosen
  | .look look => { answer := .seen (look.sight now shell.volume), shell }

/-- What can be told of a shell after a step. -/
structure Observation where
  answer : Answer
  freshPrompt : Option String
  root : Node
  current : Path
  prompt : String
  history : History

def Turn.observation (turn : Turn) : Observation where
  answer := turn.answer
  freshPrompt := turn.freshPrompt
  root := turn.shell.volume.root
  current := turn.shell.volume.current
  prompt := turn.shell.prompt
  history := turn.shell.history

/-- What can be told of a shell after each of some steps, which are taken at any times. -/
def observations : List (Instant × Step) → Shell → List Observation
  | [], _ => []
  | (now, step) :: rest, shell =>
      (shell.take now step).observation :: observations rest (shell.take now step).shell

/-- A step that does not ask what is saved. -/
def Step.Quiet : Step → Prop
  | execute line =>
      ∀ parsed, Line.parse (Text.trim line) = .ok parsed → parsed.Avoids .debugFs
  | _ => True

/-- Turns with the same answer and fresh prompt, and shells that are alike. -/
structure Turn.Alike (first second : Turn) : Prop where
  answer : first.answer = second.answer
  shell : first.shell.Alike second.shell
  freshPrompt : first.freshPrompt = second.freshPrompt

theorem Turn.Alike.observation_eq {first second : Turn} (alike : first.Alike second) :
    first.observation = second.observation := by
  unfold observation
  rw [alike.answer, alike.freshPrompt, alike.shell.volume.root, alike.shell.volume.current,
    alike.shell.prompt_eq, alike.shell.history]

theorem Reply.Alike.turn {ε α : Type} {first second : Reply ε α} (alike : first.Alike second)
    (answer : Except ε α → Answer) : (first.turn answer).Alike (second.turn answer) :=
  ⟨congrArg answer alike.result, alike.shell, alike.freshPrompt⟩

theorem complete_elsewhere (volume : Volume) (storageKey : String) (store : Store)
    (input : String) :
    ({ volume with storageKey, store } : Volume).complete input = volume.complete input := by
  have sameEntry (front word : String) : Completion.ofEntry { volume with storageKey, store }
      front word = Completion.ofEntry volume front word := by
    unfold Completion.ofEntry
    generalize Completion.cutBehindLast '/' word.toList = cut
    rfl
  unfold Volume.complete
  generalize Completion.cutBehindLast ' ' input.toList = cut
  simp only [sameEntry]

theorem Look.sight_eq {first second : Volume} (alike : first.Alike second) (look : Look) :
    look.sight now first = look.sight now second := by
  refine alike.elim fun storageKey store => ?_
  cases look with
  | completion input => exact congrArg Sight.completion (complete_elsewhere _ _ _ input).symm
  | _ => rfl

theorem Alike.take (alike : first.Alike second) {step : Step} (quiet : step.Quiet) :
    (first.take now step).Alike (second.take now step) := by
  cases step with
  | execute line => exact (alike.execute now quiet).turn .executed
  | operate operation =>
      have outcomes := alike.operate (operation.blind_perform now)
      dsimp only [Shell.take]
      generalize first.operate (operation.perform now) = firstOutcome at outcomes
      generalize second.operate (operation.perform now) = secondOutcome at outcomes
      exact ⟨congrArg Answer.operated outcomes.1, outcomes.2, rfl⟩
  | importText text => exact (alike.importText now text).turn .imported
  | importChosen text => exact (alike.importChosen now text).turn .chosen
  | look look => exact ⟨congrArg Answer.seen (look.sight_eq now alike.volume), alike, rfl⟩

/-- Whatever is done with two shells that differ in nothing but what is kept for them, where and
under what key, the same is told of both after every step, as long as no line calls `debug-fs`. -/
theorem Alike.observations_eq (alike : first.Alike second) {steps : List (Instant × Step)}
    (quiet : ∀ step ∈ steps, step.2.Quiet) :
    first.observations steps = second.observations steps := by
  induction steps generalizing first second with
  | nil => rfl
  | cons step rest ih =>
      obtain ⟨here, later⟩ := List.forall_mem_cons.mp quiet
      have turns := alike.take step.1 here
      rw [observations, observations, turns.observation_eq, ih turns.shell later]

/-- One store takes every snapshot and the other none. -/
theorem Alike.observations_eq_inaccessible :
    let first := Shell.openOver ⟨0, 0⟩ (.memory []) {}
    let second := Shell.openOver ⟨0, 0⟩ .inaccessible { storageKey := "../x" }
    let steps : List (Instant × Step) :=
      [(⟨60, 0⟩, .execute "mkdir Pictures/cats"), (⟨90, 0⟩, .operate (.removeNode "/tmp")),
       (⟨120, 0⟩, .execute "reset-fs"), (⟨150, 0⟩, .look (.node "/tmp"))]
    (∃ texts, first.volume.store = .memory texts) ∧ second.volume.store = .inaccessible ∧
      first.Alike second ∧ (∀ step ∈ steps, step.2.Quiet) ∧
      first.observations steps = second.observations steps := by
  intro first second steps
  have alike : first.Alike second := ⟨⟨rfl, rfl, rfl⟩, rfl, rfl⟩
  have made : Line.parse (Text.trim "mkdir Pictures/cats") =
      .ok (.pipeline [["mkdir", "Pictures/cats"]]) := by cbv
  have reset : Line.parse (Text.trim "reset-fs") = .ok (.pipeline [["reset-fs"]]) := by cbv
  have quiet : ∀ step ∈ steps, step.2.Quiet := by
    simp only [steps, List.forall_mem_cons]
    refine ⟨fun parsed isParsed => ?_, trivial, fun parsed isParsed => ?_, trivial, by simp⟩
    · cases made.symm.trans isParsed
      decide
    · cases reset.symm.trans isParsed
      decide
  exact ⟨⟨_, rfl⟩, rfl, alike, quiet, alike.observations_eq quiet⟩

end Shell

end TreeShell
