import TreeShell.Proofs.CurrentPath

/-!
# Fresh prompts

Of what the prompt shows a line can change the current path only. The operations that change it are
applied by a few commands, and every line with one of these, whatever becomes of it, hands out a
fresh prompt. So a prompt that is shown until the next fresh one is never out of date.
-/

namespace TreeShell

/-! ### What moves the current path -/

namespace Operation

variable {now : Instant} {volume changed : Volume} {operation : Operation}

/-- Only the operations that put the current path in order change it. -/
theorem Effect.current_eq (effect : Effect now volume operation changed)
    (keeps : ¬ operation.Settles volume) : changed.current = volume.current := by
  cases effect with
  | createDirectory => rfl
  | createFile => rfl
  | writeNewFile => rfl
  | writeFile => rfl
  | leaveNode => rfl
  | removeNode => exact absurd trivial keeps
  | changeDirectory => exact absurd trivial keeps
  | importText => exact absurd trivial keeps
  | reset => exact absurd trivial keeps
  | @moveNode source target _ _ _ _ _ _ _ origin destination different =>
      refine absurd ?_ keeps
      show volume.resolve source ≠ volume.resolve target
      rwa [origin, destination]

theorem current_after (now : Instant) (keeps : ¬ operation.Settles volume) :
    (operation.after now volume).current = volume.current := by
  rcases after_cases now volume operation with same | effect
  · rw [same]
  · exact effect.current_eq keeps

end Operation

namespace Shell

/-- The commands that apply such operations are those after which a fresh prompt is shown. -/
theorem mem_movingCommands_of_applies {command : Command} {operation : Operation} {volume : Volume}
    (applies : command.Applies operation) (settles : operation.Settles volume) :
    command ∈ movingCommands := by
  unfold Command.Applies at applies
  split at applies <;> first | decide | exact settles.elim | exact applies.elim

theorem mayMove_of_applies {words : List String} {operation : Operation} {volume : Volume}
    (applies : Line.Applies words operation) (settles : operation.Settles volume) :
    mayMove words = true := by
  obtain ⟨command, named, applies⟩ := applies
  simpa [mayMove, named] using mem_movingCommands_of_applies applies settles

theorem refreshesPrompt_of_applies {line : String} {parsed : Line}
    (isParsed : Line.parse (Text.trim line) = .ok parsed) {operation : Operation} {volume : Volume}
    (applies : parsed.AppliesAny operation) (settles : operation.Settles volume) :
    refreshesPrompt line = true := by
  rcases applies with ⟨words, member, applies⟩ | ⟨_, _, _, _, rfl⟩
  · have moves : parsed.commands.any mayMove = true :=
      List.any_eq_true.mpr ⟨words, member, mayMove_of_applies applies settles⟩
    simpa only [refreshesPrompt, isParsed] using moves
  · exact settles.elim

/-! ### One line -/

section

variable (shell : Shell) (now : Instant) (line : String)

theorem execute_becomes : shell.volume.Becomes now
    (Event.Applies (.submit now shell.environment shell.history line))
    (shell.execute now line).shell.volume := by
  cases shell with
  | mk volume history environment =>
      exact (Event.submit now environment history line).becomes volume

@[simp]
theorem environment_execute :
    (shell.execute now line).shell.environment = shell.environment := by
  unfold execute submit perform
  dsimp only
  split
  · rfl
  · split
    · rfl
    · split <;> rfl

@[simp]
theorem home_execute : (shell.execute now line).shell.volume.home = shell.volume.home := by
  obtain ⟨operations, -, same⟩ := shell.execute_becomes now line
  rw [same]
  exact (Operation.run_home_storageKey shell.volume _).1

theorem freshPrompt_eq : (shell.execute now line).freshPrompt =
    if refreshesPrompt line then some (shell.execute now line).shell.prompt else none := by
  unfold execute
  generalize (if Text.trim line = "" then (Except.ok (Output.text ""), shell) else
    shell.submit now (Text.trim line)) = outcome
  cases outcome
  dsimp only

theorem current_execute (quiet : refreshesPrompt line = false) :
    (shell.execute now line).shell.volume.current = shell.volume.current := by
  refine (shell.execute_becomes now line).keeps (·.current = shell.volume.current) ?_ rfl
  rintro operation volume ⟨parsed, isParsed, applies⟩ same
  have keeps : ¬ operation.Settles volume := by
    intro settles
    rw [refreshesPrompt_of_applies isParsed applies settles] at quiet
    cases quiet
  rw [Operation.current_after now keeps, same]

theorem prompt_execute (quiet : refreshesPrompt line = false) :
    (shell.execute now line).shell.prompt = shell.prompt := by
  simp [prompt, shell.current_execute now line quiet]

end

/-! ### Lines in turn -/

def runLines : List (Instant × String) → Shell → Shell
  | [], shell => shell
  | (now, line) :: rest, shell => runLines rest (shell.execute now line).shell

/-- The prompt that is shown after lines in turn, each replacing it with its fresh one if it has
one. -/
def shownAfter : List (Instant × String) → Shell → (shown : String) → String
  | [], _, shown => shown
  | (now, line) :: rest, shell, shown =>
      let reply := shell.execute now line
      shownAfter rest reply.shell (reply.freshPrompt.getD shown)

theorem shownAfter_eq (lines : List (Instant × String)) (shell : Shell) :
    shownAfter lines shell shell.prompt = (runLines lines shell).prompt := by
  induction lines generalizing shell with
  | nil => rfl
  | cons step rest ih =>
      obtain ⟨now, line⟩ := step
      have shown : (shell.execute now line).freshPrompt.getD shell.prompt =
          (shell.execute now line).shell.prompt := by
        rw [freshPrompt_eq]
        cases refreshes : refreshesPrompt line with
        | true => rfl
        | false => exact (shell.prompt_execute now line refreshes).symm
      rw [shownAfter, shown]
      exact ih _

/-- A line hands out one prompt or none, which is the prompt of the shell after the line, and it
does hand it out when the current path has changed. So whoever shows the last prompt that was handed
out shows the prompt of the shell. -/
theorem freshPrompt_execute (shell : Shell) (now : Instant) (line : String) :
    let reply := shell.execute now line
    (reply.freshPrompt = none ∨ reply.freshPrompt = some reply.shell.prompt) ∧
      (reply.shell.volume.current ≠ shell.volume.current →
        reply.freshPrompt = some reply.shell.prompt) ∧
      ∀ lines, shownAfter lines shell shell.prompt = (runLines lines shell).prompt := by
  dsimp only
  have decided := shell.freshPrompt_eq now line
  refine ⟨?_, ?_, fun lines => shownAfter_eq lines shell⟩
  · cases refreshes : refreshesPrompt line with
    | true => exact Or.inr (decided.trans (if_pos refreshes))
    | false => exact Or.inl (decided.trans (by rw [refreshes]; rfl))
  · intro moved
    cases refreshes : refreshesPrompt line with
    | true => exact decided.trans (if_pos refreshes)
    | false => exact absurd (shell.current_execute now line refreshes) moved

/-- A change of the directory is shown although a later stage fails. -/
theorem freshPrompt_execute_cd :
    let shell := openOver ⟨0, 0⟩ (.memory []) {}
    let reply := shell.execute ⟨60, 0⟩ "echo x | cd /tmp | frobnicate"
    reply.shell.volume.current ≠ shell.volume.current ∧
      reply.freshPrompt = some reply.shell.prompt := by
  intro shell reply
  have moved : reply.shell.volume.current ≠ shell.volume.current := by decide +kernel
  exact ⟨moved, (freshPrompt_execute shell ⟨60, 0⟩ "echo x | cd /tmp | frobnicate").2.1 moved⟩

end Shell

end TreeShell
