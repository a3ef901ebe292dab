import TreeShell.Proofs.Looking

/-!
# What the store makes no difference to

Every change that succeeds saves a snapshot while it is at it, and starting again drops the one that
was saved; the store may take it or refuse it. Whatever it does, it is never asked again but for
`debug-fs`: everything else does the same to volumes that differ only in their stores and keys, with
the same answer or the same fault.
-/

namespace TreeShell

/-- Volumes with the same tree and the same paths, over any stores and under any keys. -/
structure Volume.Alike (first second : Volume) : Prop where
  root : first.root = second.root
  current : first.current = second.current
  home : first.home = second.home

namespace Volume

/-- What holds of a volume wherever it is kept holds of the volumes that are alike. -/
@[elab_as_elim]
theorem Alike.elim {motive : Volume → Prop} {first second : Volume} (alike : first.Alike second)
    (elsewhere : ∀ storageKey store, motive { first with storageKey, store }) : motive second := by
  have same : { first with storageKey := second.storageKey, store := second.store } = second := by
    rw [alike.root, alike.current, alike.home]
  exact same ▸ elsewhere second.storageKey second.store

end Volume

/-- Results with the same value or the same fault and volumes that are alike. -/
inductive AlikeResults {ε α : Type} :
    EStateM.Result ε Volume α → EStateM.Result ε Volume α → Prop where
  | ok (value : α) {first second : Volume} (alike : first.Alike second) :
      AlikeResults (.ok value first) (.ok value second)
  | error (fault : ε) {first second : Volume} (alike : first.Alike second) :
      AlikeResults (.error fault first) (.error fault second)

/-- An action to which it makes no difference what the store is. -/
def Blind {ε α : Type} (action : EStateM ε Volume α) : Prop :=
  ∀ first second : Volume, first.Alike second → AlikeResults (action first) (action second)

section

variable {ε α β : Type}

theorem AlikeResults.ite {condition : Prop} [Decidable condition]
    {first second first' second' : EStateM.Result ε Volume α}
    (thenAlike : AlikeResults first second) (elseAlike : AlikeResults first' second') :
    AlikeResults (if condition then first else first') (if condition then second else second') := by
  split
  · exact thenAlike
  · exact elseAlike

/-- It is enough to compare a volume with itself kept elsewhere. -/
theorem blind_of_elsewhere {action : EStateM ε Volume α}
    (elsewhere : ∀ (volume : Volume) (storageKey : String) (store : Store),
      AlikeResults (action volume) (action { volume with storageKey, store })) : Blind action :=
  fun first _ alike => alike.elim (elsewhere first)

theorem blind_pure (value : α) : Blind (pure value : EStateM ε Volume α) :=
  fun _ _ alike => .ok value alike

theorem blind_throw (fault : ε) : Blind (throw fault : EStateM ε Volume α) :=
  fun _ _ alike => .error fault alike

theorem Blind.bind {action : EStateM ε Volume α} {next : α → EStateM ε Volume β}
    (blind : Blind action) (nextBlind : ∀ value, Blind (next value)) :
    Blind (action >>= next) := by
  intro first second alike
  dsimp only [Bind.bind, EStateM.bind]
  match action first, action second, blind first second alike with
  | _, _, .ok value alike => exact nextBlind value _ _ alike
  | _, _, .error fault alike => exact .error fault alike

end

/-! ### Operations -/

namespace Volume

variable (now : Instant)

theorem blind_createDirectory (spelling : String) : Blind (createDirectory now spelling) := by
  refine blind_of_elsewhere fun volume storageKey store => ?_
  unfold createDirectory
  dsimp only [resolve, node?]
  cases Path.split? (Path.resolve volume.current spelling) with
  | none => exact .error _ ⟨rfl, rfl, rfl⟩
  | some place =>
      obtain ⟨parent, name⟩ := place
      refine .ite (.error _ ⟨rfl, rfl, rfl⟩) ?_
      cases volume.root.insert? parent name (Node.newDirectory now name) with
      | none => exact .error _ ⟨rfl, rfl, rfl⟩
      | some root => exact .ok () ⟨rfl, rfl, rfl⟩

theorem blind_createFile (spelling content : String) :
    Blind (createFile now spelling content) := by
  refine blind_of_elsewhere fun volume storageKey store => ?_
  unfold createFile
  dsimp only [resolve]
  cases Path.split? (Path.resolve volume.current spelling) with
  | none => exact .error _ ⟨rfl, rfl, rfl⟩
  | some place =>
      obtain ⟨parent, name⟩ := place
      dsimp only
      cases volume.root.insert? parent name (Node.newFile now name content) with
      | none => exact .error _ ⟨rfl, rfl, rfl⟩
      | some root => exact .ok () ⟨rfl, rfl, rfl⟩

theorem blind_writeFile (spelling content : String) :
    Blind (writeFile now spelling content) := by
  refine blind_of_elsewhere fun volume storageKey store => ?_
  unfold writeFile
  dsimp only [resolve, node?]
  cases volume.root.find? (Path.resolve volume.current spelling) with
  | none => exact blind_createFile now spelling content _ _ ⟨rfl, rfl, rfl⟩
  | some node =>
      dsimp only
      cases volume.root.change? (Node.replaceContent? now content)
          (Path.resolve volume.current spelling) with
      | none => exact .error _ ⟨rfl, rfl, rfl⟩
      | some root => exact .ok () ⟨rfl, rfl, rfl⟩

theorem blind_removeNode (spelling : String) : Blind (removeNode now spelling) := by
  refine blind_of_elsewhere fun volume storageKey store => ?_
  unfold removeNode
  dsimp only [resolve]
  cases Path.split? (Path.resolve volume.current spelling) with
  | none => exact .error _ ⟨rfl, rfl, rfl⟩
  | some place =>
      obtain ⟨parent, name⟩ := place
      dsimp only
      cases volume.root.erase? parent name with
      | none => exact .error _ ⟨rfl, rfl, rfl⟩
      | some root => exact .ok () ⟨rfl, rfl, rfl⟩

theorem blind_relocate (source target : String) (node : Node) (origin destination : Path) :
    Blind (relocate now source target node origin destination) := by
  refine blind_of_elsewhere fun volume storageKey store => ?_
  unfold relocate
  dsimp only
  cases Path.split? destination with
  | none => exact .error _ ⟨rfl, rfl, rfl⟩
  | some place =>
      dsimp only
      cases volume.root.insert? place.1 place.2
          (node.withAttributes (movedAttributes now place.2 node.attributes)) with
      | none => exact .error _ ⟨rfl, rfl, rfl⟩
      | some inserted =>
          cases Path.split? origin with
          | none => exact .error _ ⟨rfl, rfl, rfl⟩
          | some place =>
              dsimp only
              cases inserted.erase? place.1 place.2 with
              | none => exact .error _ ⟨rfl, rfl, rfl⟩
              | some root => exact .ok () ⟨rfl, rfl, rfl⟩

theorem blind_moveNode (source target : String) : Blind (moveNode now source target) := by
  refine blind_of_elsewhere fun volume storageKey store => ?_
  unfold moveNode
  dsimp only [resolve]
  cases volume.root.find? (Path.resolve volume.current source) with
  | none => exact .error _ ⟨rfl, rfl, rfl⟩
  | some node =>
      refine .ite (.ok () ⟨rfl, rfl, rfl⟩) (.ite (.error _ ⟨rfl, rfl, rfl⟩)
        (.ite (.error _ ⟨rfl, rfl, rfl⟩) (.ite (.error _ ⟨rfl, rfl, rfl⟩) ?_)))
      exact blind_relocate now source target node _ _ _ _ ⟨rfl, rfl, rfl⟩

theorem blind_changeDirectory (spelling : String) : Blind (changeDirectory now spelling) := by
  refine blind_of_elsewhere fun volume storageKey store => ?_
  unfold changeDirectory
  dsimp only [resolve]
  cases volume.root.find? (Path.resolve volume.current spelling) with
  | none => exact .error _ ⟨rfl, rfl, rfl⟩
  | some node => exact .ite (.ok () ⟨rfl, rfl, rfl⟩) (.error _ ⟨rfl, rfl, rfl⟩)

theorem blind_importText (text : String) : Blind (importText now text) := by
  refine blind_of_elsewhere fun volume storageKey store => ?_
  unfold importText
  cases Snapshot.read now text with
  | error fault => exact .error _ ⟨rfl, rfl, rfl⟩
  | ok snapshot => exact .ok _ ⟨rfl, rfl, rfl⟩

/-- Starting again drops what is kept, but the initial tree does not depend on it. -/
theorem Alike.reset {first second : Volume} (alike : first.Alike second) :
    (first.reset now).Alike (second.reset now) :=
  alike.elim fun _ _ => ⟨rfl, rfl, rfl⟩

end Volume

theorem Operation.blind_perform (now : Instant) (operation : Operation) :
    Blind (operation.perform now) := by
  cases operation with
  | createDirectory spelling => exact Volume.blind_createDirectory now spelling
  | createFile spelling content => exact Volume.blind_createFile now spelling content
  | writeFile spelling content => exact Volume.blind_writeFile now spelling content
  | removeNode spelling => exact Volume.blind_removeNode now spelling
  | moveNode source target => exact Volume.blind_moveNode now source target
  | changeDirectory spelling => exact Volume.blind_changeDirectory now spelling
  | importText text => exact (Volume.blind_importText now text).bind fun _ => blind_pure ()
  | reset => exact fun _ _ alike => .ok () (alike.reset now)

/-! ### Commands -/

namespace Action

variable {α β : Type}

theorem blind_observe {look : Volume → Except CommandFault α}
    (elsewhere : ∀ (volume : Volume) (storageKey : String) (store : Store),
      look volume = look { volume with storageKey, store }) : Blind (observe look) := by
  refine blind_of_elsewhere fun volume storageKey store => ?_
  unfold observe
  rw [← elsewhere volume storageKey store]
  cases look volume with
  | ok value => exact .ok value ⟨rfl, rfl, rfl⟩
  | error fault => exact .error fault ⟨rfl, rfl, rfl⟩

theorem blind_get_bind {next : Volume → Action α} (blind : ∀ volume, Blind (next volume))
    (elsewhere : ∀ (volume : Volume) (storageKey : String) (store : Store),
      next { volume with storageKey, store } = next volume) : Blind (get >>= next) := by
  refine blind_of_elsewhere fun volume storageKey store => ?_
  have results := blind volume volume { volume with storageKey, store } ⟨rfl, rfl, rfl⟩
  change AlikeResults (next volume volume) (next { volume with storageKey, store } _)
  rwa [elsewhere volume storageKey store]

theorem blind_change {operate : Change α} (blind : Blind operate) (command : Command) :
    Blind (change command operate) := by
  intro first second alike
  unfold Action.change
  match operate first, operate second, blind first second alike with
  | _, _, .ok value alike => exact .ok value alike
  | _, _, .error fault alike => exact .error _ alike

theorem blind_change_return {operate : Change α} (blind : Blind operate) (command : Command)
    (value : β) : Blind (change command operate >>= fun _ => pure value) :=
  (blind_change blind command).bind fun _ => blind_pure value

theorem alike_collectLines {answer : String → Action (Option String)}
    (blind : ∀ operand, Blind (answer operand)) (operands : List String) {first second : Volume}
    (alike : first.Alike second) :
    (collectLines answer operands first).1 = (collectLines answer operands second).1 ∧
      (collectLines answer operands first).2.Alike (collectLines answer operands second).2 := by
  induction operands generalizing first second with
  | nil => exact ⟨rfl, alike⟩
  | cons operand rest ih =>
      have results := blind operand first second alike
      simp only [collectLines]
      generalize answer operand first = firstResult at results
      generalize answer operand second = secondResult at results
      cases results with
      | ok line alike => exact ⟨congrArg (line.toList ++ ·) (ih alike).1, (ih alike).2⟩
      | error fault alike => exact ⟨congrArg (fault.message :: ·) (ih alike).1, (ih alike).2⟩

theorem blind_forEachOperand {answer : String → Action (Option String)} (command : Command)
    (operands : List String) (blind : ∀ operand, Blind (answer operand)) :
    Blind (forEachOperand command operands answer) := by
  match operands with
  | [] => exact blind_throw _
  | [operand] => exact (blind operand).bind fun line => blind_pure _
  | first :: second :: rest =>
      intro volume volume' alike
      have collected := alike_collectLines blind (first :: second :: rest) alike
      dsimp only [forEachOperand]
      rw [collected.1]
      exact .ok _ collected.2

end Action

namespace Builtin

open Action

variable (invocation : Invocation)

theorem blind_mkdir : Blind (mkdir invocation) := by
  apply blind_forEachOperand
  intro spelling
  exact blind_change_return (Volume.blind_createDirectory invocation.now spelling) .mkdir _

theorem blind_touch : Blind (touch invocation) := by
  apply blind_forEachOperand
  intro spelling
  refine blind_of_elsewhere fun volume storageKey store => ?_
  dsimp only [Volume.node?, Volume.resolve]
  cases volume.root.find? (Path.resolve volume.current spelling) with
  | none =>
      have blind := Volume.blind_createFile invocation.now spelling ""
      exact blind_change_return blind .touch _ _ _ ⟨rfl, rfl, rfl⟩
  | some node =>
      cases node with
      | file attributes content =>
          have blind := Volume.blind_writeFile invocation.now spelling content
          exact blind_change_return blind .touch _ _ _ ⟨rfl, rfl, rfl⟩
      | directory attributes entries => exact .ok none ⟨rfl, rfl, rfl⟩

theorem blind_removeOperand (now : Instant) (recursive : Bool) (spelling : String) :
    Blind (removeOperand now recursive spelling) := by
  refine blind_of_elsewhere fun volume storageKey store => ?_
  dsimp only [removeOperand, Volume.node?, Volume.resolve]
  cases volume.root.find? (Path.resolve volume.current spelling) with
  | none => exact .error _ ⟨rfl, rfl, rfl⟩
  | some node =>
      refine .ite (.error _ ⟨rfl, rfl, rfl⟩) ?_
      exact blind_change (Volume.blind_removeNode now spelling) .rm _ _ ⟨rfl, rfl, rfl⟩

theorem blind_rm : Blind (rm invocation) := by
  unfold rm
  dsimp only
  split
  · exact blind_pure _
  apply blind_forEachOperand
  intro spelling first second alike
  dsimp only
  match removeOperand _ _ spelling first, removeOperand _ _ spelling second,
    blind_removeOperand invocation.now
      (invocation.hasFlag 'r' || invocation.hasFlag 'R') spelling first second alike with
  | _, _, .ok value alike => exact .ok _ alike
  | _, _, .error fault alike => exact .ite (.ok none alike) (.error fault alike)

theorem blind_rmdir : Blind (rmdir invocation) := by
  apply blind_forEachOperand
  intro spelling
  refine blind_of_elsewhere fun volume storageKey store => ?_
  dsimp only [Volume.node?, Volume.resolve]
  cases volume.root.find? (Path.resolve volume.current spelling) with
  | none => exact .error _ ⟨rfl, rfl, rfl⟩
  | some node =>
      cases node with
      | file attributes content => exact .error _ ⟨rfl, rfl, rfl⟩
      | directory attributes entries =>
          refine .ite ?_ (.error _ ⟨rfl, rfl, rfl⟩)
          have blind := Volume.blind_removeNode invocation.now spelling
          exact blind_change_return blind .rmdir _ _ _ ⟨rfl, rfl, rfl⟩

theorem landing_elsewhere (volume : Volume) (storageKey : String) (store : Store)
    (source destination : String) :
    landing { volume with storageKey, store } source destination =
      landing volume source destination :=
  rfl

theorem blind_cp : Blind (cp invocation) := by
  unfold cp
  split
  next source destination _ =>
    refine Blind.bind (blind_observe fun _ _ _ => rfl) fun content => ?_
    -- The whole volume is read here, but only to see where the copy lands.
    refine blind_get_bind (fun volume => ?_) fun volume storageKey store => ?_
    · exact blind_change_return (Volume.blind_createFile _ _ content) .cp _
    · simp only [landing_elsewhere]
  · exact blind_throw _

theorem blind_mv : Blind (mv invocation) := by
  unfold mv
  split
  next source destination _ =>
    refine blind_get_bind (fun volume => ?_) fun volume storageKey store => ?_
    · exact blind_change_return (Volume.blind_moveNode _ source _) .mv _
    · simp only [landing_elsewhere]
  · exact blind_throw _

theorem blind_cd : Blind (cd invocation) := by
  refine blind_of_elsewhere fun volume storageKey store => ?_
  let home := Path.spell volume.home
  let target := (invocation.arguments.head?.map (expandHome home)).getD home
  have blind := Volume.blind_changeDirectory invocation.now target
  exact blind_change_return blind .cd _ _ _ ⟨rfl, rfl, rfl⟩

theorem blind_resetFs : Blind (resetFs invocation) :=
  fun _ _ alike => .ok _ (alike.reset invocation.now)

end Builtin

open Action in
/-- Only `debug-fs` asks the store. -/
theorem Command.blind_run {command : Command} (others : command ≠ .debugFs)
    (invocation : Invocation) : Blind (command.run invocation) := by
  cases command with
  | debugFs => exact absurd rfl others
  | mkdir => exact Builtin.blind_mkdir invocation
  | touch => exact Builtin.blind_touch invocation
  | rm => exact Builtin.blind_rm invocation
  | rmdir => exact Builtin.blind_rmdir invocation
  | cp => exact Builtin.blind_cp invocation
  | mv => exact Builtin.blind_mv invocation
  | cd => exact Builtin.blind_cd invocation
  | resetFs => exact Builtin.blind_resetFs invocation
  | cat =>
      dsimp only [run, Builtin.cat]
      split
      · exact blind_pure _
      · exact blind_forEachOperand _ _ fun _ => blind_observe fun _ _ _ => rfl
  | file => exact blind_forEachOperand _ _ fun _ => blind_observe fun _ _ _ => rfl
  | which => exact blind_forEachOperand _ _ fun _ => blind_pure _
  | man =>
      dsimp only [run, Builtin.man]
      split
      · exact blind_throw _
      · split
        · exact blind_pure _
        · exact blind_throw _
  | pwd =>
      dsimp only [run, Builtin.pwd]
      exact blind_observe fun _ _ _ => rfl
  | exportFs =>
      dsimp only [run, Builtin.exportFs]
      exact blind_observe fun _ _ _ => rfl
  | exit =>
      dsimp only [run, Builtin.exit]
      exact blind_observe fun _ _ _ => rfl
  | ls | grep | find | head | tail | wc | sort | uniq | du | nano =>
      exact blind_observe fun _ _ _ => rfl
  | echo | ps | whoami | date | clear | help | history | df | uptime | uname | importFs =>
      exact blind_pure _

/-! ### Lines -/

namespace Line

/-- No command of a line is a certain one. -/
def Avoids (command : Command) (line : Line) : Prop :=
  ∀ words ∈ line.commands, words.head? ≠ some command.name

instance (command : Command) (line : Line) : Decidable (line.Avoids command) := by
  unfold Avoids; infer_instance

variable (context : Context)

theorem blind_runStage (piped : Option String) {words : List String}
    (avoids : words.head? ≠ some Command.debugFs.name) :
    Blind (runStage context piped words) := by
  cases words with
  | nil => exact blind_throw _
  | cons name arguments =>
      simp only [runStage]
      split
      next => exact blind_throw _
      next command named =>
        have others : command ≠ .debugFs := by
          rintro rfl
          exact avoids (congrArg some (Command.name_of_named? named).symm)
        exact Command.blind_run others _

theorem blind_runPipeline (piped : Option String) {stages : List (List String)}
    (avoids : ∀ words ∈ stages, words.head? ≠ some Command.debugFs.name) :
    Blind (runPipeline context piped stages) := by
  induction stages generalizing piped with
  | nil => exact blind_pure _
  | cons words rest ih =>
      obtain ⟨here, later⟩ := List.forall_mem_cons.mp avoids
      have first := blind_runStage context piped here
      cases rest with
      | nil => exact first
      | cons next rest => exact first.bind fun output => ih (some output.piped) later

theorem blind_runRedirect {command : List String} (target : String)
    (avoids : command.head? ≠ some Command.debugFs.name) :
    Blind (runRedirect context command target) := by
  intro first second alike
  unfold runRedirect
  match runStage context none command first, runStage context none command second,
    blind_runStage context none avoids first second alike with
  | _, _, .error fault alike => exact .error _ alike
  | _, _, .ok output alike =>
      dsimp only
      match Volume.createFile context.now target output.piped _,
        Volume.createFile context.now target output.piped _,
        Volume.blind_createFile context.now target output.piped _ _ alike with
      | _, _, .ok value alike => exact .ok _ alike
      | _, _, .error fault alike => exact .error _ alike

theorem Avoids.blind_run {line : Line} (avoids : line.Avoids .debugFs) :
    Blind (line.run context) := by
  cases line with
  | pipeline stages => exact blind_runPipeline context none avoids
  | redirect command target =>
      exact blind_runRedirect context target (avoids command (List.mem_singleton_self command))

end Line

end TreeShell
