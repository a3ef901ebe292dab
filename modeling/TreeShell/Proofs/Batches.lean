import TreeShell.Proofs.Removals

/-!
# One run for many operands

A command that goes through its operands does to a volume what it does when it is run for each of
them in turn, with the same options and at the same time. It never fails as a whole: the failures
are lines of its answer, between the lines of the operands that it answers something to.
-/

namespace TreeShell

namespace Action

/-- The outcomes of actions run one after the other, whether they succeed or fail, and the volume
that they leave. -/
def inTurn : List (Action Output) → Volume → List (Except CommandFault Output) × Volume
  | [], volume => ([], volume)
  | action :: rest, volume =>
      match action volume with
      | .ok output changed => (.ok output :: (inTurn rest changed).1, (inTurn rest changed).2)
      | .error fault changed => (.error fault :: (inTurn rest changed).1, (inTurn rest changed).2)

/-- The lines that an outcome is shown by: its text if there is any, or the message of its
failure. -/
def shownLines : Except CommandFault Output → List String
  | .ok output => if output.piped = "" then [] else [output.piped]
  | .error fault => [fault.message]

/-- Whatever is answered to an operand is not empty. -/
def SaysSomething (answer : String → Action (Option String)) : Prop :=
  ∀ operand volume line changed, answer operand volume = .ok (some line) changed → line ≠ ""

section

variable {answer : String → Action (Option String)} (command : Command)

theorem forEachOperand_singleton (operand : String) (volume : Volume) :
    forEachOperand command [operand] answer volume =
      match answer operand volume with
      | .ok line changed => .ok (.text (line.getD "")) changed
      | .error fault changed => .error fault changed := by
  change (answer operand >>= fun line => pure (Output.text (line.getD ""))) volume = _
  simp only [bind, EStateM.bind]
  cases answer operand volume <;> rfl

variable (saysSomething : SaysSomething answer)

include saysSomething

theorem collectLines_eq_inTurn (operands : List String) (volume : Volume) :
    collectLines answer operands volume =
      let single (operand : String) := forEachOperand command [operand] answer
      let alone := inTurn (operands.map single) volume
      (alone.1.flatMap shownLines, alone.2) := by
  induction operands generalizing volume with
  | nil => rfl
  | cons operand rest ih =>
      have single : forEachOperand command [operand] answer volume = _ :=
        forEachOperand_singleton command operand volume
      cases outcome : answer operand volume with
      | error fault changed =>
          simp [collectLines, inTurn, single, outcome, ih, shownLines]
      | ok line changed =>
          cases line with
          | none => simp [collectLines, inTurn, single, outcome, ih, shownLines, Output.piped]
          | some line =>
              have notEmpty := saysSomething operand volume line changed outcome
              simp [collectLines, inTurn, single, outcome, ih, shownLines, Output.piped, notEmpty]

theorem forEachOperand_eq_inTurn {operands : List String} (several : 2 ≤ operands.length)
    (volume : Volume) : forEachOperand command operands answer volume =
      let single (operand : String) := forEachOperand command [operand] answer
      let alone := inTurn (operands.map single) volume
      .ok (.text (String.intercalate "\n" (alone.1.flatMap shownLines))) alone.2 := by
  have collected : forEachOperand command operands answer volume =
      .ok (.text (String.intercalate "\n" (collectLines answer operands volume).1))
        (collectLines answer operands volume).2 := by
    match operands with
    | [] => simp at several
    | [operand] => simp at several
    | first :: second :: rest => rfl
  rw [collected, collectLines_eq_inTurn command saysSomething]

end

theorem eq_of_change_pure {α β : Type} {command : Command} {operate : Change α} {value result : β}
    {volume changed : Volume}
    (succeeds : (change command operate >>= fun _ => pure value) volume = .ok result changed) :
    result = value := by
  simp only [bind, EStateM.bind] at succeeds
  cases outcome : change command operate volume with
  | ok done between =>
      rw [outcome] at succeeds
      cases succeeds
      rfl
  | error fault between =>
      rw [outcome] at succeeds
      cases succeeds

end Action

/-! ### The commands -/

/-- A command answers to its operands one by one, in a way that its options and the time decide. -/
structure Builtin.GoesThrough (command : Command) (invocation : Invocation)
    (answer : String → Action (Option String)) : Prop where
  whole : command.run invocation = Action.forEachOperand command invocation.operands answer
  single : ∀ operand, [operand] ⊆ invocation.operands →
    command.run (invocation.withOperands [operand]) =
      Action.forEachOperand command [operand] answer
  saysSomething : Action.SaysSomething answer

namespace Builtin

open Action

theorem append_quote_ne_empty (text : String) : text ++ "'" ≠ "" := by
  simp

variable (invocation : Invocation)

theorem goesThrough_mkdir : ∃ answer, GoesThrough .mkdir invocation answer := by
  refine ⟨_, rfl, ?_, ?_⟩
  · intro operand isOperand
    have alone := Invocation.operands_withOperands isOperand
    change mkdir (invocation.withOperands [operand]) = _
    rw [mkdir, alone]
    rfl
  · intro operand volume line changed succeeds
    cases eq_of_change_pure succeeds
    exact append_quote_ne_empty _

theorem goesThrough_touch : ∃ answer, GoesThrough .touch invocation answer := by
  refine ⟨_, rfl, ?_, ?_⟩
  · intro operand isOperand
    have alone := Invocation.operands_withOperands isOperand
    change touch (invocation.withOperands [operand]) = _
    rw [touch, alone]
    rfl
  · intro operand volume line changed succeeds
    dsimp only at succeeds
    split at succeeds
    next => cases eq_of_change_pure succeeds
    next => cases succeeds
    next =>
      cases eq_of_change_pure succeeds
      exact append_quote_ne_empty _

theorem goesThrough_rmdir : ∃ answer, GoesThrough .rmdir invocation answer := by
  refine ⟨_, rfl, ?_, ?_⟩
  · intro operand isOperand
    have alone := Invocation.operands_withOperands isOperand
    change rmdir (invocation.withOperands [operand]) = _
    rw [rmdir, alone]
    rfl
  · intro operand volume line changed succeeds
    dsimp only at succeeds
    split at succeeds
    next => cases succeeds
    next => cases succeeds
    next =>
      split at succeeds
      next =>
        cases eq_of_change_pure succeeds
        exact append_quote_ne_empty _
      next => cases succeeds

theorem goesThrough_rm (someOperand : invocation.operands ≠ []) :
    ∃ answer, GoesThrough .rm invocation answer := by
  refine ⟨_, if_neg (by simp [someOperand]), ?_, ?_⟩
  · intro operand isOperand
    change rm (invocation.withOperands [operand]) = _
    simp only [rm, Invocation.operands_withOperands isOperand,
      Invocation.hasFlag_withOperands isOperand]
    rfl
  · intro operand volume line changed succeeds
    dsimp only at succeeds
    split at succeeds
    next =>
      cases succeeds
      exact append_quote_ne_empty _
    next => split at succeeds <;> cases succeeds

end Builtin

namespace Command

theorem exists_goesThrough {command : Command} (isOne : command ∈ [mkdir, touch, rm, rmdir])
    {invocation : Invocation} (someOperand : invocation.operands ≠ []) :
    ∃ answer, Builtin.GoesThrough command invocation answer := by
  simp only [List.mem_cons, List.not_mem_nil, or_false] at isOne
  rcases isOne with rfl | rfl | rfl | rfl
  · exact Builtin.goesThrough_mkdir invocation
  · exact Builtin.goesThrough_touch invocation
  · exact Builtin.goesThrough_rm invocation someOperand
  · exact Builtin.goesThrough_rmdir invocation

/-- With several operands a command always succeeds. It leaves what it leaves when it is run for one
operand after the other, and answers the lines that these runs are shown by. -/
theorem run_eq_inTurn {command : Command} (isOne : command ∈ [mkdir, touch, rm, rmdir])
    {invocation : Invocation} (several : 2 ≤ invocation.operands.length) (volume : Volume) :
    let alone := Action.inTurn (invocation.operands.map fun operand =>
      command.run (invocation.withOperands [operand])) volume
    command.run invocation volume =
      .ok (.text (String.intercalate "\n" (alone.1.flatMap Action.shownLines))) alone.2 := by
  have someOperand : invocation.operands ≠ [] := List.length_pos_iff.mp (by omega)
  obtain ⟨answer, goesThrough⟩ := exists_goesThrough isOne someOperand
  have sameRuns : (invocation.operands.map fun operand =>
        command.run (invocation.withOperands [operand])) =
      invocation.operands.map fun operand => Action.forEachOperand command [operand] answer := by
    refine List.map_congr_left fun operand isOperand => ?_
    exact goesThrough.single operand (List.cons_subset.mpr ⟨isOperand, List.nil_subset _⟩)
  rw [goesThrough.whole, sameRuns]
  exact Action.forEachOperand_eq_inTurn command goesThrough.saysSomething several volume

/-- A file that is made is there when its name comes again. -/
theorem run_eq_inTurn_touch :
    let volume := Volume.load ⟨0, 0⟩ (.memory []) "fs" "/home/user"
    let invocation : Invocation :=
      { now := ⟨60, 0⟩, environment := ⟨"user", "linux", ⟨0, 0⟩⟩, history := []
        arguments := ["/tmp/a", "-c", "/no/a", "/tmp", "/tmp/a"], piped := none }
    let alone := Action.inTurn (invocation.operands.map fun operand =>
      touch.run (invocation.withOperands [operand])) volume
    (touch ∈ [mkdir, touch, rm, rmdir] ∧ 2 ≤ invocation.operands.length) ∧
      touch.run invocation volume = .ok (.text ("touch: created file '/tmp/a'\n" ++
        "touch: cannot create '/no/a': parent directory not found")) alone.2 ∧
      alone.2.root.flat ["tmp", "a"] = some (Node.newFile ⟨60, 0⟩ "a" "").label := by
  intro volume invocation alone
  have isOne : touch ∈ [mkdir, touch, rm, rmdir] := by decide
  have several : 2 ≤ invocation.operands.length := by decide
  have shown : alone.1.flatMap Action.shownLines = ["touch: created file '/tmp/a'",
      "touch: cannot create '/no/a': parent directory not found"] := by decide +kernel
  refine ⟨⟨isOne, several⟩, ?_, by decide +kernel⟩
  rw [run_eq_inTurn isOne several volume, shown]
  rfl

end Command

end TreeShell
