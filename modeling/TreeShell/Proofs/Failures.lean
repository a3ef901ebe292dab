import TreeShell.Proofs.Session

/-!
# Failures

What fails leaves the volume as it was, with its tree, its current path and its store. For a move
this is the one question of `Operation.moveNode_cases`. A command can fail as long as it only looks
at the volume, or in its one change; with several operands it does not fail at all.
-/

namespace TreeShell

/-- An action that leaves the volume as it was whenever it fails. -/
def Atomic {ε α : Type} (action : EStateM ε Volume α) : Prop :=
  ∀ volume fault changed, action volume = .error fault changed → changed = volume

/-- An action that leaves the volume as it was in any case. -/
def Steady {ε α : Type} (action : EStateM ε Volume α) : Prop :=
  ∀ volume : Volume, volume.after action = volume

section

variable {ε α β : Type} {action : EStateM ε Volume α} {next : α → EStateM ε Volume β}

theorem Steady.eq_of_ok (steady : Steady action) {volume changed : Volume} {value : α}
    (done : action volume = .ok value changed) : changed = volume := by
  have same := steady volume
  rwa [Volume.after, done] at same

theorem Steady.atomic (steady : Steady action) : Atomic action := by
  intro volume fault changed failed
  have same := steady volume
  rwa [Volume.after, failed] at same

theorem atomic_pure (value : α) : Atomic (pure value : EStateM ε Volume α) :=
  fun _ _ _ failed => by cases failed

theorem atomic_throw (fault : ε) : Atomic (throw fault : EStateM ε Volume α) := by
  intro volume fault' changed failed
  cases failed
  rfl

theorem bind_eq_error {volume changed : Volume} {fault : ε}
    (failed : (action >>= next) volume = .error fault changed) :
    action volume = .error fault changed ∨
      ∃ value between, action volume = .ok value between ∧
        next value between = .error fault changed := by
  change EStateM.bind action next volume = _ at failed
  unfold EStateM.bind at failed
  split at failed
  next value between done => exact Or.inr ⟨value, between, done, failed⟩
  next fault' between failedFirst =>
    cases failed
    exact Or.inl failedFirst

/-- What only looks can come before anything. -/
theorem Steady.bind (steady : Steady action) (atomic : ∀ value, Atomic (next value)) :
    Atomic (action >>= next) := by
  intro volume fault changed failed
  rcases bind_eq_error failed with failedFirst | ⟨value, between, done, failedNext⟩
  · exact steady.atomic volume fault changed failedFirst
  · rw [← steady.eq_of_ok done]
    exact atomic value between fault changed failedNext

/-- What cannot fail can come after anything. -/
theorem Atomic.bind_pure (atomic : Atomic action) (finish : α → β) :
    Atomic (action >>= fun value => pure (finish value)) := by
  intro volume fault changed failed
  rcases bind_eq_error failed with failedFirst | ⟨value, between, done, failedNext⟩
  · exact atomic volume fault changed failedFirst
  · cases failedNext

end

/-! ### Operations -/

theorem Operation.atomic_perform (now : Instant) (operation : Operation) :
    Atomic (operation.perform now) := by
  intro volume fault changed failed
  rcases operation.perform_cases now volume with ⟨fault', unchanged⟩ | ⟨changed', done, -⟩
  · rw [unchanged] at failed
    cases failed
    rfl
  · rw [done] at failed
    cases failed

theorem Volume.atomic_importText (now : Instant) (text : String) :
    Atomic (importText now text) := by
  intro volume fault changed failed
  unfold importText at failed
  split at failed
  next =>
    cases failed
    rfl
  next => cases failed

/-! ### Commands -/

namespace Action

variable {α : Type}

theorem steady_get : Steady (get : Action Volume) :=
  fun _ => rfl

theorem steady_observe (look : Volume → Except CommandFault α) : Steady (observe look) :=
  after_observe look

theorem atomic_change {operation : Change α} (atomic : Atomic operation) (command : Command) :
    Atomic (change command operation) := by
  intro volume fault changed failed
  unfold change at failed
  split at failed
  next => cases failed
  next fault' between failedOperation =>
    cases failed
    exact atomic volume _ _ failedOperation

/-- With several operands the failures are lines of the answer. -/
theorem atomic_forEachOperand {answer : String → Action (Option String)}
    (atomic : ∀ operand, Atomic (answer operand)) (command : Command) (operands : List String) :
    Atomic (forEachOperand command operands answer) := by
  match operands with
  | [] => exact atomic_throw _
  | [operand] => exact (atomic operand).bind_pure _
  | first :: second :: rest =>
      intro volume fault changed failed
      cases failed

end Action

namespace Builtin

open Action

variable (invocation : Invocation)

theorem atomic_mkdir : Atomic (mkdir invocation) := by
  apply atomic_forEachOperand
  intro spelling
  have made := Operation.atomic_perform invocation.now (.createDirectory spelling)
  exact (atomic_change made .mkdir).bind_pure _

theorem atomic_touch : Atomic (touch invocation) := by
  apply atomic_forEachOperand
  intro spelling volume
  dsimp only
  cases found : volume.node? spelling with
  | none =>
      have made := Operation.atomic_perform invocation.now (.createFile spelling "")
      exact (atomic_change made .touch).bind_pure _ volume
  | some node =>
      cases node with
      | file attributes content =>
          have written := Operation.atomic_perform invocation.now (.writeFile spelling content)
          exact (atomic_change written .touch).bind_pure _ volume
      | directory attributes entries => exact atomic_pure none volume

theorem atomic_removeOperand (now : Instant) (recursive : Bool) (spelling : String) :
    Atomic (removeOperand now recursive spelling) := by
  intro volume
  unfold removeOperand
  cases found : volume.node? spelling with
  | none => exact atomic_throw _ volume
  | some node =>
      dsimp only
      split
      · exact atomic_throw _ volume
      · have removed := Operation.atomic_perform now (.removeNode spelling)
        exact atomic_change removed .rm volume

theorem atomic_rm : Atomic (rm invocation) := by
  unfold rm
  dsimp only
  split
  · exact atomic_pure _
  apply atomic_forEachOperand
  intro spelling volume fault changed failed
  dsimp only at failed
  split at failed
  next => cases failed
  next fault' between failedOperand =>
    split at failed
    · cases failed
    · cases failed
      exact atomic_removeOperand invocation.now _ spelling volume fault changed failedOperand

theorem atomic_rmdir : Atomic (rmdir invocation) := by
  apply atomic_forEachOperand
  intro spelling volume
  dsimp only
  cases found : volume.node? spelling with
  | none => exact atomic_throw _ volume
  | some node =>
      cases node with
      | file attributes content => exact atomic_throw _ volume
      | directory attributes entries =>
          dsimp only
          split
          · have removed := Operation.atomic_perform invocation.now (.removeNode spelling)
            exact (atomic_change removed .rmdir).bind_pure _ volume
          · exact atomic_throw _ volume

theorem atomic_cp : Atomic (cp invocation) := by
  unfold cp
  split
  next source destination _ =>
    refine (steady_observe _).bind fun content => steady_get.bind fun volume => ?_
    have made := Operation.atomic_perform invocation.now
      (.createFile (landing volume source destination) content)
    exact (atomic_change made .cp).bind_pure _
  · exact atomic_throw _

theorem atomic_mv : Atomic (mv invocation) := by
  unfold mv
  split
  next source destination _ =>
    refine steady_get.bind fun volume => ?_
    have moved := Operation.atomic_perform invocation.now
      (.moveNode source (landing volume source destination))
    exact (atomic_change moved .mv).bind_pure _
  · exact atomic_throw _

theorem atomic_cd : Atomic (cd invocation) := by
  intro volume
  have entered := Operation.atomic_perform invocation.now (.changeDirectory
    ((invocation.arguments.head?.map (expandHome (Path.spell volume.home))).getD
      (Path.spell volume.home)))
  exact (atomic_change entered .cd).bind_pure _ volume

end Builtin

namespace Command

/-- The commands that may change a volume. -/
def changing : List Command := [cd, mkdir, touch, rm, rmdir, cp, mv, resetFs]

theorem mem_changing_of_applies {command : Command} {operation : Operation}
    (applies : command.Applies operation) : command ∈ changing := by
  unfold Applies at applies
  split at applies <;> first | decide | exact applies.elim

/-- Every other command does what no operations do. -/
theorem steady_run {command : Command} (looks : command ∉ changing) (invocation : Invocation) :
    Steady (command.run invocation) := by
  intro volume
  have none : ∀ operation, ¬ command.Applies operation :=
    fun operation applies => looks (mem_changing_of_applies applies)
  exact (command.amounts_run invocation volume).eq_self none

theorem atomic_run (command : Command) (invocation : Invocation) :
    Atomic (command.run invocation) := by
  by_cases looks : command ∉ changing
  · exact (steady_run looks invocation).atomic
  rw [Decidable.not_not] at looks
  simp only [changing, List.mem_cons, List.not_mem_nil, or_false] at looks
  rcases looks with rfl | rfl | rfl | rfl | rfl | rfl | rfl | rfl
  · exact Builtin.atomic_cd invocation
  · exact Builtin.atomic_mkdir invocation
  · exact Builtin.atomic_touch invocation
  · exact Builtin.atomic_rm invocation
  · exact Builtin.atomic_rmdir invocation
  · exact Builtin.atomic_cp invocation
  · exact Builtin.atomic_mv invocation
  · exact fun volume fault changed failed => by cases failed

end Command

/-! ### Everything that can fail -/

/-- Whatever fails in whatever state, an operation or a command with any arguments and any piped
text, leaves everything as it was. -/
theorem atomic_of_every_change :
    (∀ now operation, Atomic (Operation.perform now operation)) ∧
      (∀ now text, Atomic (Volume.importText now text)) ∧
      ∀ command invocation, Atomic (Command.run command invocation) :=
  ⟨Operation.atomic_perform, Volume.atomic_importText, Command.atomic_run⟩

/-- Moving a directory below itself fails after its destination was found. -/
theorem atomic_of_every_change_mv :
    let volume := Volume.load ⟨0, 0⟩ (.memory []) "fs" "/home/user"
    let invocation : Invocation :=
      { now := ⟨60, 0⟩, environment := ⟨"user", "linux", ⟨0, 0⟩⟩, history := []
        arguments := ["/home", "/home/user/Music"], piped := none }
    ∃ fault, Command.run .mv invocation volume = .error fault volume := by
  intro volume invocation
  have fails : (match Command.run .mv invocation volume with
      | .ok _ _ => false
      | .error _ _ => true) = true := by decide +kernel
  cases outcome : Command.run .mv invocation volume with
  | ok output changed => rw [outcome] at fails; cases fails
  | error fault changed =>
      have same := atomic_of_every_change.2.2 .mv invocation volume fault changed outcome
      exact ⟨fault, same ▸ rfl⟩

end TreeShell
