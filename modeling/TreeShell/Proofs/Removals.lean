import TreeShell.Proofs.CurrentPath
import TreeShell.Proofs.Refinement

/-!
# What is removed

A command that removes nodes resolves its operands one by one. Once one of them has removed
something, those after it are resolved from what is left of the current path, so that an operand
can name another node than it did when the command was given. What each operand names in its turn,
and what lies below that, is all that is lost.
-/

namespace TreeShell

/-! ### Some of the operands -/

namespace Invocation

/-- The invocation with its options, but with other operands. -/
def withOperands (invocation : Invocation) (operands : List String) : Invocation :=
  { invocation with arguments := invocation.arguments.filter isOption ++ operands }

variable {invocation : Invocation} {operands : List String}

theorem operands_withOperands (areOperands : operands ⊆ invocation.operands) :
    (invocation.withOperands operands).operands = operands := by
  have noOption : ∀ operand ∈ operands, (!isOption operand) = true := fun operand member =>
    (List.mem_filter.mp (areOperands member)).2
  rw [withOperands, Invocation.operands, List.filter_append, List.filter_filter,
    List.filter_eq_self.mpr noOption]
  simp

theorem isOption_of_mem_flagLetters {argument : String} {flag : Char}
    (isFlag : flag ∈ flagLetters argument) : isOption argument = true := by
  unfold flagLetters at isFlag
  unfold isOption
  split at isFlag <;> simp_all

theorem hasFlag_withOperands (areOperands : operands ⊆ invocation.operands) (flag : Char) :
    (invocation.withOperands operands).hasFlag flag = invocation.hasFlag flag := by
  rw [Bool.eq_iff_iff]
  simp only [hasFlag, List.any_eq_true, List.contains_iff_mem]
  constructor
  · rintro ⟨argument, member, isFlag⟩
    refine ⟨argument, ?_, isFlag⟩
    rcases List.mem_append.mp member with option | operand
    · exact (List.mem_filter.mp option).1
    · exact (List.mem_filter.mp (areOperands operand)).1
  · rintro ⟨argument, member, isFlag⟩
    refine ⟨argument, List.mem_append_left _ ?_, isFlag⟩
    exact List.mem_filter.mpr ⟨member, isOption_of_mem_flagLetters isFlag⟩

end Invocation

namespace Command

/-- The nodes that a command may remove. -/
def mayRemove (command : Command) (invocation : Invocation) (node : Node) : Bool :=
  match command with
  | .rm => !node.isDirectory || (invocation.hasFlag 'r' || invocation.hasFlag 'R')
  | .rmdir => node.entries?.any List.isEmpty
  | _ => false

variable {command : Command} (isRemoval : command ∈ [Command.rm, .rmdir]) (volume : Volume)

include isRemoval

theorem after_run_of_removal (invocation : Invocation) : volume.after (command.run invocation) =
    invocation.operands.foldl (Volume.without invocation.now (command.mayRemove invocation))
      volume := by
  simp only [List.mem_cons, List.not_mem_nil, or_false] at isRemoval
  rcases isRemoval with rfl | rfl
  · exact Builtin.after_rm invocation volume
  · exact Builtin.after_rmdir invocation volume

theorem after_run_withOperands {invocation : Invocation} {operands : List String}
    (areOperands : operands ⊆ invocation.operands) :
    volume.after (command.run (invocation.withOperands operands)) =
      operands.foldl (Volume.without invocation.now (command.mayRemove invocation)) volume := by
  have sameNodes : command.mayRemove (invocation.withOperands operands) =
      command.mayRemove invocation := by
    funext node
    simp only [mayRemove, Invocation.hasFlag_withOperands areOperands]
  rw [after_run_of_removal isRemoval, Invocation.operands_withOperands areOperands, sameNodes]
  rfl

end Command

namespace Volume

variable {volume first : Volume} {path : Path} {label : Label} (now : Instant) (may : Node → Bool)

/-! ### One operand -/

section

variable (operand : String)

theorem WellFormed.without (wellFormed : volume.WellFormed fun _ => True) :
    (volume.without now may operand).WellFormed fun _ => True := by
  rcases without_cases now may volume operand with same | ⟨_, _, _, isRemoved⟩
  · rwa [same]
  · rw [isRemoved]
    exact wellFormed.after (fun _ _ _ => trivial) trivial _

/-- Either nothing is done, or what the operand names is taken away with everything below it, and
the current path is cut back. -/
theorem without_effect (wellFormed : volume.WellFormed fun _ => True) :
    let later := volume.without now may operand
    later = volume ∨ volume.root.flat (volume.resolve operand) ≠ none ∧
      later.root.flat = volume.root.flat.prune (volume.resolve operand) ∧
      later.current = surviving later.root volume.current := by
  dsimp only
  rcases without_cases now may volume operand with same | ⟨-, -, -, isRemoved⟩
  · exact Or.inl same
  · rw [isRemoved]
    exact (after_removeNode wellFormed now operand).imp_right And.right

/-- What the operand does not lead to is kept. -/
theorem flat_without (wellFormed : volume.WellFormed fun _ => True)
    (outside : ¬ volume.resolve operand <+: path) :
    (volume.without now may operand).root.flat path = volume.root.flat path := by
  rcases without_effect now may operand wellFormed with same | ⟨-, isPruned, -⟩
  · rw [same]
  · rw [isPruned]
    exact if_neg outside

/-- A node of an earlier volume is gone, and the current path is what is left of the earlier one. -/
structure Diminishes (first volume : Volume) : Prop where
  lost : ∃ path, first.root.flat path ≠ none ∧ volume.root.flat path = none
  cutBack : volume.CutBack first.current

/-- What has been lost does not come back, and what has been cut back is cut back further. -/
theorem diminishes_without (wellFormed : volume.WellFormed fun _ => True)
    (known : volume = first ∨ Diminishes first volume) :
    volume.without now may operand = first ∨ Diminishes first (volume.without now may operand) := by
  rcases without_effect now may operand wellFormed with same | ⟨isThere, isPruned, isCutBack⟩
  · rwa [same]
  have laterWellFormed := wellFormed.without now may operand
  have cutBack := cutBack_of_surviving laterWellFormed.isRoot.isDirectory isCutBack
  refine Or.inr ?_
  rcases known with rfl | ⟨⟨path, wasThere, isGone⟩, before⟩
  · refine ⟨⟨volume.resolve operand, isThere, ?_⟩, cutBack⟩
    rw [isPruned]
    exact if_pos List.prefix_rfl
  · refine ⟨⟨path, wasThere, ?_⟩, cutBack.isFront.trans before.isFront, cutBack.stands, ?_⟩
    · rw [isPruned, FlatMap.prune, isGone, ite_self]
    · -- A removal makes no directory, so what is one now was one before.
      intro front isFront isLeft
      refine cutBack.longest front (before.longest front isFront ?_) isLeft
      obtain ⟨attributes, here⟩ := Node.hasDirectory_iff_flat.mp isLeft
      rw [isPruned, FlatMap.prune] at here
      split at here
      next => cases here
      next => exact Node.hasDirectory_iff_flat.mpr ⟨attributes, here⟩

end

/-! ### All operands -/

variable {operands : List String}

theorem diminishes_foldl_without (wellFormed : volume.WellFormed fun _ => True) :
    operands.foldl (without now may) volume = volume ∨
      Diminishes volume (operands.foldl (without now may) volume) := by
  refine (List.foldlRecOn (motive := fun later => later.WellFormed (fun _ => True) ∧
    (later = volume ∨ Diminishes volume later)) operands _ ⟨wellFormed, Or.inl rfl⟩ ?_).2
  intro between ⟨betweenWellFormed, known⟩ operand _
  exact ⟨betweenWellFormed.without now may operand,
    diminishes_without now may operand betweenWellFormed known⟩

/-- What is lost lies where one of the operands led when its turn came, or below. -/
theorem flat_foldl_without (wellFormed : volume.WellFormed fun _ => True)
    (here : volume.root.flat path = some label) :
    (operands.foldl (without now may) volume).root.flat path = some label ∨
      ∃ front operand rest, operands = front ++ operand :: rest ∧
        (front.foldl (without now may) volume).resolve operand <+: path := by
  -- The volume is generalized: the operands after the first one start from what it left.
  induction operands generalizing volume with
  | nil => exact Or.inl here
  | cons operand rest ih =>
      by_cases named : volume.resolve operand <+: path
      · exact Or.inr ⟨[], operand, rest, rfl, named⟩
      · have kept := (flat_without now may operand wellFormed named).trans here
        rcases ih (wellFormed.without now may operand) kept with
          isThere | ⟨front, later, back, rfl, named⟩
        · exact Or.inl isThere
        · exact Or.inr ⟨operand :: front, later, back, rfl, named⟩

/-- Operands that do not lead to the current directory or to one above it leave the current path
as it is. -/
theorem current_foldl_without (wellFormed : volume.WellFormed fun _ => True)
    (stands : volume.Stands)
    (outside : ∀ operand ∈ operands, ¬ volume.resolve operand <+: volume.current) :
    (operands.foldl (without now may) volume).current = volume.current := by
  -- That the path still leads to a directory is what keeps the next removal from cutting it back.
  refine (List.foldlRecOn (motive := fun later : Volume => later.WellFormed (fun _ => True) ∧
    later.Stands ∧ later.current = volume.current) operands _ ⟨wellFormed, stands, rfl⟩ ?_).2.2
  intro between ⟨betweenWellFormed, betweenStands, sameCurrent⟩ operand member
  have notNamed : ¬ between.resolve operand <+: between.current := by
    rw [resolve, sameCurrent]
    exact outside operand member
  have laterWellFormed := betweenWellFormed.without now may operand
  refine ⟨laterWellFormed, ?_⟩
  rcases without_effect now may operand betweenWellFormed with same | ⟨-, -, isCutBack⟩
  · rw [same]
    exact ⟨betweenStands, sameCurrent⟩
  · have isLeft : (between.without now may operand).root.hasDirectory between.current = true := by
      rw [Stands, Node.hasDirectory_iff_flat] at betweenStands
      rwa [Node.hasDirectory_iff_flat, flat_without now may operand betweenWellFormed notNamed]
    have same : (between.without now may operand).current = between.current :=
      isCutBack.trans ((surviving_eq_self_iff laterWellFormed.isRoot.isDirectory).mpr isLeft)
    exact ⟨by rwa [Stands, same], same.trans sameCurrent⟩

end Volume

/-- In every state of a session and with any arguments `rm` and `rmdir` work on their operands in
turn, and each removes what it names if that may be removed. Nothing is lost but what lies where one
of the operands leads in its turn, or below. Until something is lost operands are resolved from the
current path as it was, and after that from the longest part of it that leads to a directory. So
where no operand but the last one leads to the current directory or to one above it, nothing is lost
but what the operands named from the start. -/
theorem Event.removed_run (opened : Instant) (store : Store) (storageKey home : String)
    (events : List Event) (invocation : Invocation) {command : Command}
    (isRemoval : command ∈ [Command.rm, .rmdir]) :
    let volume := run events (Volume.load opened store storageKey home)
    let after := volume.after (command.run invocation)
    let turn (front : List String) := volume.after (command.run (invocation.withOperands front))
    (turn [] = volume ∧ turn invocation.operands = after ∧
      ∀ front operand, front ++ [operand] <+: invocation.operands → turn (front ++ [operand]) =
        (turn front).without invocation.now (command.mayRemove invocation) operand) ∧
    (∀ path label, volume.root.flat path = some label →
      after.root.flat path = some label ∨
        ∃ front operand rest, invocation.operands = front ++ operand :: rest ∧
          (turn front).resolve operand <+: path) ∧
    (∀ front, front <+: invocation.operands →
      turn front = volume ∨ volume.Diminishes (turn front)) ∧
    (volume.Stands →
      (∀ operand ∈ invocation.operands.dropLast, ¬ volume.resolve operand <+: volume.current) →
      ∀ path label, volume.root.flat path = some label →
        after.root.flat path = some label ∨
          ∃ operand ∈ invocation.operands, volume.resolve operand <+: path) := by
  intro volume after turn
  have wellFormed : volume.WellFormed (fun _ => True) :=
    wellFormed_run_load opened store storageKey home events
  have isAfter : after =
      invocation.operands.foldl (Volume.without invocation.now (command.mayRemove invocation))
        volume :=
    Command.after_run_of_removal isRemoval volume invocation
  have isTurn : ∀ front, front <+: invocation.operands → turn front =
      front.foldl (Volume.without invocation.now (command.mayRemove invocation)) volume :=
    fun front isFront => Command.after_run_withOperands isRemoval volume isFront.subset
  have loses : ∀ path label, volume.root.flat path = some label →
      after.root.flat path = some label ∨
        ∃ front operand rest, invocation.operands = front ++ operand :: rest ∧
          (turn front).resolve operand <+: path := by
    intro path label here
    rw [isAfter]
    rcases Volume.flat_foldl_without _ _ wellFormed here with
      kept | ⟨front, operand, rest, isSplit, named⟩
    · exact Or.inl kept
    · refine Or.inr ⟨front, operand, rest, isSplit, ?_⟩
      rwa [isTurn front ⟨operand :: rest, isSplit.symm⟩]
  refine ⟨⟨isTurn [] List.nil_prefix, ?_, ?_⟩, loses, ?_, ?_⟩
  · rw [isAfter, isTurn _ List.prefix_rfl]
  · intro front operand isFront
    rw [isTurn _ isFront, isTurn front ((List.prefix_append _ _).trans isFront),
      List.foldl_append, List.foldl_cons, List.foldl_nil]
  · intro front isFront
    rw [isTurn front isFront]
    exact Volume.diminishes_foldl_without _ _ wellFormed
  · intro stands outside path label here
    refine (loses path label here).imp_right ?_
    intro ⟨front, operand, rest, isSplit, named⟩
    refine ⟨operand, by simp [isSplit], ?_⟩
    have isEarlier : ∀ earlier ∈ front, earlier ∈ invocation.operands.dropLast := by
      intro earlier member
      rw [isSplit, List.dropLast_append_cons]
      exact List.mem_append_left _ member
    rw [isTurn front ⟨operand :: rest, isSplit.symm⟩, Volume.resolve,
      Volume.current_foldl_without _ _ wellFormed stands fun earlier member =>
        outside earlier (isEarlier earlier member)] at named
    exact named

/-- The current directory removed after a name in it was given, and before. -/
theorem Event.removed_run_orders :
    let volume := run [.operate ⟨0, 0⟩ (.createDirectory "/tmp/d"),
      .operate ⟨0, 0⟩ (.createFile "/tmp/x" "keep"), .operate ⟨0, 0⟩ (.changeDirectory "/tmp/d")]
      (Volume.load ⟨0, 0⟩ (.memory []) "fs" "/home/user")
    let invocation (operands : List String) : Invocation :=
      { now := ⟨60, 0⟩, environment := ⟨"user", "linux", ⟨0, 0⟩⟩, history := []
        arguments := "-r" :: operands, piped := none }
    let after (operands : List String) := volume.after (Command.rm.run (invocation operands))
    Command.rm ∈ [Command.rm, .rmdir] ∧
      ((after ["x", "/tmp/d"]).root.flat ["tmp", "d"] = none ∧
        (after ["x", "/tmp/d"]).root.flat ["tmp", "x"] = volume.root.flat ["tmp", "x"]) ∧
      volume.Diminishes (after ["/tmp/d"]) ∧ (after ["/tmp/d"]).current = ["tmp"] ∧
      (after ["/tmp/d", "x"]).root.flat ["tmp", "x"] = none := by
  intro volume invocation after
  have isRemoval : Command.rm ∈ [Command.rm, .rmdir] := by decide
  have runs := removed_run ⟨0, 0⟩ (.memory []) "fs" "/home/user"
    [.operate ⟨0, 0⟩ (.createDirectory "/tmp/d"), .operate ⟨0, 0⟩ (.createFile "/tmp/x" "keep"),
      .operate ⟨0, 0⟩ (.changeDirectory "/tmp/d")]
  have isFile : volume.root.flat ["tmp", "x"] =
      some (Node.newFile ⟨0, 0⟩ "x" "keep").label := by decide +kernel
  have stands : volume.Stands := by unfold Volume.Stands; decide +kernel
  have isLost : (after ["/tmp/d"]).root.flat ["tmp", "d"] = none := by decide +kernel
  have wasThere : (volume.root.flat ["tmp", "d"]).isSome := by decide +kernel
  refine ⟨isRemoval, ⟨by decide +kernel, ?_⟩, ?_, by decide +kernel, by decide +kernel⟩
  · have kept := (runs (invocation ["x", "/tmp/d"]) isRemoval).2.2.2 stands
      (by decide +kernel) ["tmp", "x"] _ isFile
    rw [isFile]
    exact kept.resolve_right (by decide +kernel)
  · have turn := (runs (invocation ["/tmp/d", "x"]) isRemoval).2.2.1 ["/tmp/d"]
      (by decide +kernel)
    refine turn.resolve_left fun same => ?_
    have isSame : after ["/tmp/d"] = volume := same
    rw [isSame] at isLost
    rw [isLost] at wasThere
    cases wasThere

/-- An operand that names something else once the current directory has been removed. -/
theorem Event.not_forall_removed_run : ¬ ∀ (opened : Instant) (store : Store)
    (storageKey home : String) (events : List Event) (invocation : Invocation) (command : Command),
    command ∈ [Command.rm, .rmdir] →
    let volume := run events (Volume.load opened store storageKey home)
    let after := volume.after (command.run invocation)
    ∀ path label, volume.root.flat path = some label →
      after.root.flat path ≠ none ∨
        ∃ operand ∈ invocation.operands, volume.resolve operand <+: path := by
  intro always
  have kept := always ⟨0, 0⟩ (.memory []) "fs" "/home/user"
    [.operate ⟨0, 0⟩ (.createDirectory "/tmp/d"), .operate ⟨0, 0⟩ (.createFile "/tmp/x" "keep"),
      .operate ⟨0, 0⟩ (.changeDirectory "/tmp/d")]
    { now := ⟨60, 0⟩, environment := ⟨"user", "linux", ⟨0, 0⟩⟩, history := []
      arguments := ["-r", "/tmp/d", "x"], piped := none }
    .rm (by decide) ["tmp", "x"] (Node.newFile ⟨0, 0⟩ "x" "keep").label (by decide +kernel)
  revert kept
  decide +kernel

end TreeShell
