import TreeShell.Proofs.Volumes
import TreeShell.Shell

/-!
# Sessions as sequences of operations

A session opens a volume and then does two things with it in any order: it applies operations, and
it submits lines. A line can do nothing to the volume that the operations cannot do: whatever it
consists of, the volume after it is the volume after some operations, and the commands of the line
tell which kinds of operations these are.
-/

namespace TreeShell

/-- One thing done in a session: an operation, or a line submitted with the environment and the
history of a shell. -/
inductive Event where
  | operate (now : Instant) (operation : Operation)
  | submit (now : Instant) (environment : Environment) (history : History) (line : String)

namespace Event

def now : Event → Instant
  | .operate time _ => time
  | .submit time .. => time

/-- The volume after an event. -/
def after : Event → Volume → Volume
  | .operate time operation, volume => operation.after time volume
  | .submit time environment history line, volume =>
      ((Shell.mk volume history environment).execute time line).shell.volume

/-- The volume after events in turn. -/
def run (events : List Event) (volume : Volume) : Volume :=
  events.foldl (fun volume event => event.after volume) volume

end Event

/-! ### What commands do to a volume -/

/-- The operations that a command may apply. -/
def Command.Applies : Command → Operation → Prop
  | .cd, .changeDirectory _ => True
  | .mkdir, .createDirectory _ => True
  | .touch, .createFile _ _ => True
  | .touch, .writeFile _ _ => True
  | .rm, .removeNode _ => True
  | .rmdir, .removeNode _ => True
  | .cp, .createFile _ _ => True
  | .mv, .moveNode _ _ => True
  | .resetFs, .reset => True
  | _, _ => False

/-- The operations that the command of some words may apply. -/
def Line.Applies (words : List String) (operation : Operation) : Prop :=
  ∃ command, words.head?.bind Command.named? = some command ∧ command.Applies operation

namespace Volume

/-- A volume comes from another by operations of certain kinds, all at one time. -/
def Becomes (now : Instant) (kinds : Operation → Prop) (before after : Volume) : Prop :=
  ∃ operations : List Operation, (∀ operation ∈ operations, kinds operation) ∧
    after = Operation.run (operations.map fun operation => (now, operation)) before

variable {now : Instant} {kinds : Operation → Prop}

theorem Becomes.refl (volume : Volume) : Becomes now kinds volume volume :=
  ⟨[], fun _ member => absurd member List.not_mem_nil, rfl⟩

theorem Becomes.single (operation : Operation) (isKind : kinds operation) (volume : Volume) :
    Becomes now kinds volume (operation.after now volume) :=
  ⟨[operation], fun _ member => List.mem_singleton.mp member ▸ isKind, rfl⟩

theorem Becomes.trans {first second third : Volume} (front : Becomes now kinds first second)
    (back : Becomes now kinds second third) : Becomes now kinds first third := by
  obtain ⟨frontOperations, frontKinds, rfl⟩ := front
  obtain ⟨backOperations, backKinds, rfl⟩ := back
  refine ⟨frontOperations ++ backOperations, ?_, ?_⟩
  · intro operation member
    exact (List.mem_append.mp member).elim (frontKinds operation) (backKinds operation)
  · rw [List.map_append, Operation.run_append]

theorem Becomes.mono {kinds' : Operation → Prop} {before after : Volume}
    (weaker : ∀ operation, kinds operation → kinds' operation)
    (becomes : Becomes now kinds before after) : Becomes now kinds' before after := by
  obtain ⟨operations, areKinds, same⟩ := becomes
  exact ⟨operations, fun operation member => weaker operation (areKinds operation member), same⟩

/-- What no operation of certain kinds takes away is there after them. -/
theorem Becomes.keeps (holds : Volume → Prop)
    (keeps : ∀ operation volume, kinds operation → holds volume →
      holds (operation.after now volume)) {before after : Volume}
    (becomes : Becomes now kinds before after) (start : holds before) : holds after := by
  obtain ⟨operations, areKinds, rfl⟩ := becomes
  refine Operation.run_keeps holds ?_ start
  intro step member volume
  obtain ⟨operation, isOne, rfl⟩ := List.mem_map.mp member
  exact keeps operation volume (areKinds operation isOne)

/-- Without operations nothing changes. -/
theorem Becomes.eq_self {before after : Volume} (none : ∀ operation, ¬ kinds operation)
    (becomes : Becomes now kinds before after) : after = before :=
  becomes.keeps (· = before) (fun operation _ isKind => absurd isKind (none operation)) rfl

end Volume

/-! ### What actions keep -/

/-- An action that keeps a property of volumes, whether it succeeds or fails. -/
def Preserves {ε α : Type} (holds : Volume → Prop) (action : EStateM ε Volume α) : Prop :=
  ∀ volume, holds volume → holds (volume.after action)

section

variable {ε α β : Type} {holds : Volume → Prop}

theorem Volume.after_bind (action : EStateM ε Volume α) (next : α → EStateM ε Volume β)
    (volume : Volume) : volume.after (action >>= next) =
      match action volume with
      | .ok value changed => changed.after (next value)
      | .error _ changed => changed := by
  simp only [Volume.after, bind, EStateM.bind]
  cases action volume <;> rfl

theorem Preserves.bind {action : EStateM ε Volume α} {next : α → EStateM ε Volume β}
    (preserves : Preserves holds action) (nextPreserves : ∀ value, Preserves holds (next value)) :
    Preserves holds (action >>= next) := by
  intro volume start
  have first := preserves volume start
  rw [Volume.after_bind]
  unfold Volume.after at first
  cases outcome : action volume with
  | ok value changed =>
      rw [outcome] at first
      exact nextPreserves value changed first
  | error fault changed =>
      rw [outcome] at first
      exact first

end

namespace Action

section

variable {α β : Type} {holds : Volume → Prop}

theorem after_observe (look : Volume → Except CommandFault α) (volume : Volume) :
    volume.after (observe look) = volume := by
  unfold Volume.after observe
  cases look volume <;> rfl

theorem after_change (command : Command) (operate : Change α) (volume : Volume) :
    volume.after (change command operate) = volume.after operate := by
  unfold Volume.after change
  cases operate volume <;> rfl

theorem after_change_pure (command : Command) (operate : Change α) (value : β) (volume : Volume) :
    volume.after (change command operate >>= fun _ => pure value) = volume.after operate := by
  rw [Volume.after_bind, ← after_change command]
  unfold Volume.after
  cases change command operate volume <;> rfl

/-- A change and an answer after it, in one volume. -/
theorem holds_after_change (command : Command) {operate : Change α} (value : β) {volume : Volume}
    (changed : holds (volume.after operate)) :
    holds (volume.after (change command operate >>= fun _ => pure value)) := by
  rwa [after_change_pure]

theorem collectLines_snd (answer : String → Action (Option String)) (operands : List String)
    (volume : Volume) : (collectLines answer operands volume).2 =
      operands.foldl (fun between operand => between.after (answer operand)) volume := by
  induction operands generalizing volume with
  | nil => rfl
  | cons operand rest ih =>
      rw [List.foldl_cons, ← ih]
      simp only [collectLines, Volume.after]
      cases answer operand volume <;> rfl

/-- The operands are worked on in turn, each in the volume that those before it left, whether they
succeeded or failed. -/
theorem after_forEachOperand (command : Command) (operands : List String)
    (answer : String → Action (Option String)) (volume : Volume) :
    volume.after (forEachOperand command operands answer) =
      operands.foldl (fun between operand => between.after (answer operand)) volume := by
  match operands with
  | [] => rfl
  | [operand] =>
      refine (Volume.after_bind (answer operand) _ volume).trans ?_
      simp only [List.foldl_cons, List.foldl_nil, Volume.after]
      cases answer operand volume <;> rfl
  | first :: second :: rest => exact collectLines_snd answer (first :: second :: rest) volume

/-- What every operand keeps is kept by all of them in turn, however many there are. -/
theorem preserves_forEachOperand {answer : String → Action (Option String)} (command : Command)
    (operands : List String) (preserves : ∀ operand, Preserves holds (answer operand)) :
    Preserves holds (forEachOperand command operands answer) := by
  intro volume start
  rw [after_forEachOperand]
  exact List.foldlRecOn operands _ start fun between kept operand _ =>
    preserves operand between kept

end

section

variable {α β : Type} {now : Instant} {kinds : Operation → Prop}

/-- An action that does to every volume what operations of certain kinds do. -/
def Amounts (now : Instant) (kinds : Operation → Prop) (action : Action α) : Prop :=
  ∀ volume : Volume, volume.Becomes now kinds (volume.after action)

theorem Amounts.preserves {action : Action α} (amounts : Amounts now kinds action)
    (first : Volume) : Preserves (first.Becomes now kinds) action :=
  fun volume becomes => becomes.trans (amounts volume)

theorem amounts_of_preserves {action : Action α}
    (preserves : ∀ first : Volume, Preserves (first.Becomes now kinds) action) :
    Amounts now kinds action :=
  fun volume => preserves volume volume (.refl volume)

theorem amounts_pure (value : α) : Amounts now kinds (pure value : Action α) :=
  fun volume => .refl volume

theorem amounts_throw (fault : CommandFault) : Amounts now kinds (throw fault : Action α) :=
  fun volume => .refl volume

theorem amounts_observe (look : Volume → Except CommandFault α) :
    Amounts now kinds (observe look) := by
  intro volume
  rw [after_observe]
  exact .refl volume

theorem Amounts.bind {action : Action α} {next : α → Action β}
    (amounts : Amounts now kinds action) (nextAmounts : ∀ value, Amounts now kinds (next value)) :
    Amounts now kinds (action >>= next) :=
  amounts_of_preserves fun first =>
    (amounts.preserves first).bind fun value => (nextAmounts value).preserves first

theorem amounts_change {command : Command} {operate : Change α} (operation : Operation)
    (isKind : kinds operation)
    (same : ∀ volume, operation.after now volume = volume.after operate) :
    Amounts now kinds (change command operate) := by
  intro volume
  rw [after_change, ← same]
  exact .single operation isKind volume

theorem amounts_forEachOperand {answer : String → Action (Option String)} (command : Command)
    (operands : List String) (amounts : ∀ operand, Amounts now kinds (answer operand)) :
    Amounts now kinds (forEachOperand command operands answer) :=
  amounts_of_preserves fun first =>
    preserves_forEachOperand command operands fun operand => (amounts operand).preserves first

end

end Action

/-! ### What lines do to a volume -/

namespace Volume

/-- A volume without the node that an operand names, if that is one that may be removed. -/
def without (now : Instant) (may : Node → Bool) (volume : Volume) (operand : String) : Volume :=
  if (volume.node? operand).any may then (Operation.removeNode operand).after now volume
  else volume

theorem without_cases (now : Instant) (may : Node → Bool) (volume : Volume) (operand : String) :
    volume.without now may operand = volume ∨
      ∃ node, volume.node? operand = some node ∧ may node = true ∧
        volume.without now may operand = (Operation.removeNode operand).after now volume := by
  unfold without
  cases found : volume.node? operand with
  | none => exact Or.inl rfl
  | some node =>
      by_cases allowed : may node = true
      · exact Or.inr ⟨node, rfl, allowed, by simp [allowed]⟩
      · exact Or.inl (by simp [allowed])

end Volume

namespace Builtin

open Action

variable (invocation : Invocation)

theorem amounts_mkdir :
    Amounts invocation.now (Command.Applies .mkdir) (mkdir invocation) := by
  apply amounts_forEachOperand
  intro spelling
  exact (amounts_change (.createDirectory spelling) trivial fun _ => rfl).bind
    fun _ => amounts_pure _

/-- What making files and writing files keep is kept by `touch`, which makes a file only where
there is nothing, and writes to a file only what is in it. -/
theorem preserves_touch {holds : Volume → Prop}
    (creates : ∀ volume spelling, holds volume → volume.node? spelling = none →
      holds ((Operation.createFile spelling "").after invocation.now volume))
    (writes : ∀ volume spelling attributes content, holds volume →
      volume.node? spelling = some (.file attributes content) →
      holds ((Operation.writeFile spelling content).after invocation.now volume)) :
    Preserves holds (touch invocation) := by
  apply preserves_forEachOperand
  intro spelling volume start
  dsimp only [Volume.after]
  cases found : volume.node? spelling with
  | none => exact holds_after_change .touch _ (creates volume spelling start found)
  | some node =>
      cases node with
      | file attributes content =>
          exact holds_after_change .touch _
            (writes volume spelling attributes content start found)
      | directory attributes entries => exact start

theorem amounts_touch :
    Amounts invocation.now (Command.Applies .touch) (touch invocation) := by
  refine amounts_of_preserves fun first => preserves_touch invocation ?_ ?_
  · intro volume spelling becomes _
    exact becomes.trans (.single (.createFile spelling "") trivial volume)
  · intro volume spelling attributes content becomes _
    exact becomes.trans (.single (.writeFile spelling content) trivial volume)

theorem after_removeOperand (now : Instant) (recursive : Bool) (spelling : String)
    (volume : Volume) : volume.after (removeOperand now recursive spelling) =
      volume.without now (fun node => !node.isDirectory || recursive) spelling := by
  have changes := after_change .rm (Volume.removeNode now spelling) volume
  unfold Volume.without
  dsimp only [Volume.after, removeOperand] at changes ⊢
  cases found : volume.node? spelling with
  | none => rfl
  | some node =>
      by_cases refused : (node.isDirectory && !recursive) = true
      · have kept : ¬ (!node.isDirectory || recursive) = true := by simp_all
        simp only [if_pos refused, Option.any_some, if_neg kept]
      · have allowed : (!node.isDirectory || recursive) = true := by
          cases isDirectory : node.isDirectory <;> simp_all
        simp only [if_neg refused, Option.any_some, if_pos allowed]
        exact changes

/-- `rm` removes in turn what its operands name, directories only if it is told to. -/
theorem after_rm (volume : Volume) : volume.after (rm invocation) =
    invocation.operands.foldl (Volume.without invocation.now fun node =>
      !node.isDirectory || (invocation.hasFlag 'r' || invocation.hasFlag 'R')) volume := by
  unfold rm
  dsimp only
  split
  next passed =>
    have isEmpty : invocation.operands = [] := by
      simpa using (Bool.and_eq_true_iff.mp passed).1
    rw [isEmpty]
    rfl
  next =>
    refine (after_forEachOperand _ _ _ volume).trans ?_
    congr
    funext between spelling
    rw [← after_removeOperand]
    dsimp only [Volume.after]
    cases removeOperand invocation.now _ spelling between with
    | ok value changed => rfl
    | error fault changed => by_cases forced : invocation.hasFlag 'f' = true <;> simp [forced]

/-- What removing a node keeps is kept by `rm`, which removes directories only if it is told to. -/
theorem preserves_rm {holds : Volume → Prop}
    (removes : ∀ volume spelling node, holds volume → volume.node? spelling = some node →
      (node.isDirectory = true → invocation.hasFlag 'r' = true ∨ invocation.hasFlag 'R' = true) →
      holds ((Operation.removeNode spelling).after invocation.now volume)) :
    Preserves holds (rm invocation) := by
  intro volume start
  rw [after_rm]
  refine List.foldlRecOn _ _ start fun between kept spelling _ => ?_
  rcases Volume.without_cases invocation.now _ between spelling with
    same | ⟨node, found, allowed, isRemoved⟩
  · rwa [same]
  · rw [isRemoved]
    refine removes between spelling node kept found fun isDirectory => ?_
    simpa [isDirectory] using allowed

theorem amounts_rm : Amounts invocation.now (Command.Applies .rm) (rm invocation) := by
  refine amounts_of_preserves fun first => preserves_rm invocation ?_
  intro volume spelling node becomes _ _
  exact becomes.trans (.single (.removeNode spelling) trivial volume)

/-- `rmdir` removes in turn the empty directories that its operands name. -/
theorem after_rmdir (volume : Volume) : volume.after (rmdir invocation) =
    invocation.operands.foldl (Volume.without invocation.now fun node =>
      node.entries?.any List.isEmpty) volume := by
  unfold rmdir
  refine (after_forEachOperand _ _ _ volume).trans ?_
  congr
  funext between spelling
  dsimp only [Volume.after, Volume.without]
  cases found : between.node? spelling with
  | none => rfl
  | some node =>
      cases node with
      | file attributes content => rfl
      | directory attributes entries =>
          cases entries with
          | nil => exact after_change_pure .rmdir _ _ between
          | cons entry rest => rfl

/-- What removing an empty directory keeps is kept by `rmdir`. -/
theorem preserves_rmdir {holds : Volume → Prop}
    (removes : ∀ volume spelling attributes, holds volume →
      volume.node? spelling = some (.directory attributes []) →
      holds ((Operation.removeNode spelling).after invocation.now volume)) :
    Preserves holds (rmdir invocation) := by
  intro volume start
  rw [after_rmdir]
  refine List.foldlRecOn _ _ start fun between kept spelling _ => ?_
  rcases Volume.without_cases invocation.now _ between spelling with
    same | ⟨node, found, isEmpty, isRemoved⟩
  · rwa [same]
  · rw [isRemoved]
    cases node with
    | file attributes content => cases isEmpty
    | directory attributes entries =>
        cases entries with
        | nil => exact removes between spelling attributes kept found
        | cons entry rest => cases isEmpty

theorem amounts_rmdir :
    Amounts invocation.now (Command.Applies .rmdir) (rmdir invocation) := by
  refine amounts_of_preserves fun first => preserves_rmdir invocation ?_
  intro volume spelling attributes becomes _
  exact becomes.trans (.single (.removeNode spelling) trivial volume)

theorem amounts_cp : Amounts invocation.now (Command.Applies .cp) (cp invocation) := by
  unfold cp
  split
  · refine (amounts_observe _).bind fun content => ?_
    refine Amounts.bind (fun volume => .refl volume) fun volume => ?_
    exact (amounts_change (.createFile _ content) trivial fun _ => rfl).bind
      fun _ => amounts_pure _
  · exact amounts_throw _

theorem amounts_mv : Amounts invocation.now (Command.Applies .mv) (mv invocation) := by
  unfold mv
  split
  · refine Amounts.bind (fun volume => .refl volume) fun volume => ?_
    exact (amounts_change (.moveNode _ _) trivial fun _ => rfl).bind
      fun _ => amounts_pure _
  · exact amounts_throw _

theorem amounts_cd : Amounts invocation.now (Command.Applies .cd) (cd invocation) := by
  intro volume
  let home := Path.spell volume.home
  let target := (invocation.arguments.head?.map (expandHome home)).getD home
  have amounts : Amounts invocation.now (Command.Applies .cd) (do
      Action.change .cd (Volume.changeDirectory invocation.now target)
      return Output.text "") :=
    (amounts_change (.changeDirectory target) trivial fun _ => rfl).bind
      fun _ => amounts_pure _
  exact amounts volume

theorem amounts_resetFs :
    Amounts invocation.now (Command.Applies .resetFs) (resetFs invocation) :=
  fun volume => .single .reset trivial volume

end Builtin

open Action in
/-- A command does to a volume what operations of its kinds do. -/
theorem Command.amounts_run (command : Command) (invocation : Invocation) :
    Amounts invocation.now command.Applies (command.run invocation) := by
  cases command with
  | mkdir => exact Builtin.amounts_mkdir invocation
  | touch => exact Builtin.amounts_touch invocation
  | rm => exact Builtin.amounts_rm invocation
  | rmdir => exact Builtin.amounts_rmdir invocation
  | cp => exact Builtin.amounts_cp invocation
  | mv => exact Builtin.amounts_mv invocation
  | cd => exact Builtin.amounts_cd invocation
  | resetFs => exact Builtin.amounts_resetFs invocation
  | cat =>
      dsimp only [run, Builtin.cat]
      split
      · exact amounts_pure _
      · exact amounts_forEachOperand _ _ fun _ => amounts_observe _
  | file => exact amounts_forEachOperand _ _ fun _ => amounts_observe _
  | which => exact amounts_forEachOperand _ _ fun _ => amounts_pure _
  | man =>
      dsimp only [run, Builtin.man]
      split
      · exact amounts_throw _
      · split
        · exact amounts_pure _
        · exact amounts_throw _
  | pwd =>
      dsimp only [run, Builtin.pwd]
      exact amounts_observe _
  | debugFs =>
      dsimp only [run, Builtin.debugFs]
      exact amounts_observe _
  | exportFs =>
      dsimp only [run, Builtin.exportFs]
      exact amounts_observe _
  | exit =>
      dsimp only [run, Builtin.exit]
      exact amounts_observe _
  | ls | grep | find | head | tail | wc | sort | uniq | du | nano => exact amounts_observe _
  | echo | ps | whoami | date | clear | help | history | df | uptime | uname | importFs =>
      exact amounts_pure _

namespace Line

open Action

variable (context : Context)

theorem amounts_runStage (piped : Option String) (words : List String) :
    Amounts context.now (Applies words) (runStage context piped words) := by
  cases words with
  | nil => exact amounts_throw _
  | cons name arguments =>
      simp only [runStage]
      split
      next => exact amounts_throw _
      next command named =>
        intro volume
        have amounts := command.amounts_run (context.invocation arguments piped) volume
        exact amounts.mono fun operation applies => ⟨command, named, applies⟩

theorem amounts_runPipeline (piped : Option String) (stages : List (List String)) :
    Amounts context.now (fun operation => ∃ words ∈ stages, Applies words operation)
      (runPipeline context piped stages) := by
  induction stages generalizing piped with
  | nil => exact amounts_pure _
  | cons words rest ih =>
      have first : Amounts context.now
          (fun operation => ∃ stage ∈ words :: rest, Applies stage operation)
          (runStage context piped words) := fun volume =>
        (amounts_runStage context piped words volume).mono fun operation applies =>
          ⟨words, List.mem_cons_self, applies⟩
      cases rest with
      | nil => exact first
      | cons next rest =>
          refine first.bind fun output volume => ?_
          exact (ih (some output.piped) volume).mono fun operation ⟨stage, member, applies⟩ =>
            ⟨stage, List.mem_cons_of_mem _ member, applies⟩

/-- The operations that a line may apply: those of its commands, and the making of the file that
takes up redirected output. -/
def AppliesAny (line : Line) (operation : Operation) : Prop :=
  (∃ words ∈ line.commands, Applies words operation) ∨
    ∃ command target content, line = redirect command target ∧
      operation = .createFile target content

theorem amounts_runRedirect (command : List String) (target : String) :
    Amounts context.now (AppliesAny (redirect command target))
      (runRedirect context command target) := by
  intro volume
  have first : volume.Becomes context.now (AppliesAny (redirect command target))
      (volume.after (runStage context none command)) :=
    (amounts_runStage context none command volume).mono fun operation applies =>
      Or.inl ⟨command, List.mem_singleton_self _, applies⟩
  unfold Volume.after runRedirect at *
  cases outcome : runStage context none command volume with
  | error fault changed => simpa only [outcome] using first
  | ok output changed =>
      simp only [outcome] at first ⊢
      have second : changed.Becomes context.now (AppliesAny (redirect command target))
          ((Operation.createFile target output.piped).after context.now changed) :=
        .single _ (Or.inr ⟨command, target, output.piped, rfl, rfl⟩) changed
      unfold Operation.after Volume.after Operation.perform at second
      cases written : Volume.createFile context.now target output.piped changed with
      | ok value final => exact first.trans (by simpa only [written] using second)
      | error fault final => exact first.trans (by simpa only [written] using second)

theorem amounts_run (line : Line) :
    Amounts context.now line.AppliesAny (line.run context) := by
  cases line with
  | pipeline stages =>
      exact fun volume => (amounts_runPipeline context none stages volume).mono
        fun operation applies => Or.inl applies
  | redirect command target => exact amounts_runRedirect context command target

end Line

namespace Event

/-- The operations that an event may apply: a submitted line those of what it is read as. -/
def Applies : Event → Operation → Prop
  | .operate _ given, operation => operation = given
  | .submit _ _ _ line, operation =>
      ∃ parsed, Line.parse (Text.trim line) = .ok parsed ∧ parsed.AppliesAny operation

/-- What an event does to a volume is what operations do that it may apply. -/
theorem becomes (event : Event) (volume : Volume) :
    volume.Becomes event.now event.Applies (event.after volume) := by
  cases event with
  | operate time operation =>
      have isKind : (Event.operate time operation).Applies operation := rfl
      exact .single operation isKind volume
  | submit time environment history line =>
      unfold Event.after Shell.execute
      dsimp only
      split
      next => exact .refl volume
      next =>
        unfold Shell.submit
        dsimp only
        split
        next => exact .refl volume
        next parsed isParsed =>
          let context : Context := Shell.context time
            (Shell.mk volume (history.push (Text.trim line)) environment)
          have amounts : volume.Becomes time (Event.submit time environment history line).Applies
              (volume.after (parsed.run context)) :=
            (Line.amounts_run context parsed volume).mono fun operation applies =>
              ⟨parsed, isParsed, applies⟩
          unfold Volume.after at amounts
          unfold Shell.perform
          dsimp only
          cases outcome : parsed.run context volume with
          | ok value changed =>
              rw [outcome] at amounts
              exact amounts
          | error fault changed =>
              rw [outcome] at amounts
              exact amounts

/-! ### Events as operations -/

@[simp]
theorem run_nil (volume : Volume) : run [] volume = volume :=
  rfl

@[simp]
theorem run_cons (event : Event) (rest : List Event) (volume : Volume) :
    run (event :: rest) volume = run rest (event.after volume) :=
  rfl

/-- Operations that events amount to: for every event some that it may apply, at its time, which do
to the volume what the event does. -/
inductive Performs : List Event → Volume → List (Instant × Operation) → Prop where
  | nil (volume : Volume) : Performs [] volume []
  | cons {event : Event} {rest : List Event} {volume : Volume} {operations : List Operation}
      {performed : List (Instant × Operation)}
      (applies : ∀ operation ∈ operations, event.Applies operation)
      (same : event.after volume =
        Operation.run (operations.map fun operation => (event.now, operation)) volume)
      (later : Performs rest (event.after volume) performed) :
      Performs (event :: rest) volume
        ((operations.map fun operation => (event.now, operation)) ++ performed)

theorem exists_performs (events : List Event) (volume : Volume) :
    ∃ performed, Performs events volume performed := by
  induction events generalizing volume with
  | nil => exact ⟨[], .nil volume⟩
  | cons event rest ih =>
      obtain ⟨operations, applies, same⟩ := event.becomes volume
      obtain ⟨performed, later⟩ := ih (event.after volume)
      exact ⟨_, .cons applies same later⟩

theorem Performs.run_eq {events : List Event} {volume : Volume}
    {performed : List (Instant × Operation)} (performs : Performs events volume performed) :
    run events volume = Operation.run performed volume := by
  induction performs with
  | nil => rfl
  | cons applies same later ih => rw [run_cons, ih, Operation.run_append, ← same]

theorem Performs.timely {events : List Event} {volume : Volume}
    {performed : List (Instant × Operation)} (performs : Performs events volume performed)
    {times : Instant → Prop} (timely : ∀ event ∈ events, times event.now) :
    ∀ step ∈ performed, times step.1 := by
  induction performs with
  | nil => exact fun step member => absurd member List.not_mem_nil
  | cons applies same later ih =>
      intro step member
      rcases List.mem_append.mp member with here | inRest
      · obtain ⟨operation, -, rfl⟩ := List.mem_map.mp here
        exact timely _ List.mem_cons_self
      · exact ih (fun event member => timely event (List.mem_cons_of_mem _ member)) step inRest

/-- Operations amount to themselves. -/
theorem performs_operations (performed : List (Instant × Operation)) (volume : Volume) :
    Performs (performed.map fun step => operate step.1 step.2) volume performed := by
  induction performed generalizing volume with
  | nil => exact .nil volume
  | cons step rest ih =>
      obtain ⟨now, operation⟩ := step
      have itself : ∀ other ∈ [operation], (operate now operation).Applies other :=
        fun _ member => List.mem_singleton.mp member
      exact .cons itself rfl (ih _)

/-- A session keeps its home and its key. -/
theorem run_home_storageKey (opened : Instant) (store : Store) (storageKey home : String)
    (events : List Event) :
    (run events (Volume.load opened store storageKey home)).home = Path.follow [] home ∧
      (run events (Volume.load opened store storageKey home)).storageKey = storageKey := by
  obtain ⟨performed, performs⟩ :=
    exists_performs events (Volume.load opened store storageKey home)
  have same := Operation.run_home_storageKey (Volume.load opened store storageKey home) performed
  have atStart : (Volume.load opened store storageKey home).home = Path.follow [] home ∧
      (Volume.load opened store storageKey home).storageKey = storageKey := by
    unfold Volume.load
    dsimp only
    split
    next => split <;> exact ⟨rfl, rfl⟩
    next => exact ⟨rfl, rfl⟩
  rw [performs.run_eq]
  exact ⟨same.1.trans atStart.1, same.2.trans atStart.2⟩

/-- Events at such times keep a volume well-formed. -/
theorem wellFormed_run {times : Instant → Prop}
    (readable : ∀ text instant, Instant.read text = .ok instant → times instant) {volume : Volume}
    (wellFormed : volume.WellFormed times) {events : List Event}
    (timely : ∀ event ∈ events, times event.now) : (run events volume).WellFormed times := by
  obtain ⟨performed, performs⟩ := exists_performs events volume
  rw [performs.run_eq]
  exact wellFormed.run readable (performs.timely timely)

/-- The volumes of a session are well-formed. -/
theorem wellFormed_run_load (opened : Instant) (store : Store) (storageKey home : String)
    (events : List Event) :
    (run events (Volume.load opened store storageKey home)).WellFormed fun _ => True :=
  wellFormed_run (fun _ _ _ => trivial)
    (Volume.wellFormed_load (fun _ _ _ => trivial) trivial store storageKey home)
    fun _ _ => trivial

end Event

end TreeShell
