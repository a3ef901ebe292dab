import TreeShell.Proofs.FlatMap
import TreeShell.Proofs.Paths
import TreeShell.Volume.Seed

/-!
# Operations

The operations on a volume as data, with what each of them does when it succeeds. An operation that
fails leaves the volume as it was; that holds for a move too, which changes the tree twice, because
the node that is moved is still in its place after the first change.
-/

namespace TreeShell

/-! ### Where directories are -/

namespace Node

theorem hasDirectory_iff {root : Node} {path : Path} : root.hasDirectory path = true ↔
    ∃ attributes entries, root.find? path = some (directory attributes entries) := by
  unfold hasDirectory
  cases found : root.find? path with
  | none => simp
  | some node => cases node <;> simp [isDirectory]

theorem hasDirectory_iff_flat {root : Node} {path : Path} : root.hasDirectory path = true ↔
    ∃ attributes, root.flat path = some (.directory attributes) := by
  rw [hasDirectory_iff]
  simp only [flat_eq_directory_iff]

@[simp]
theorem hasDirectory_nil (root : Node) : root.hasDirectory [] = root.isDirectory := by
  simp [hasDirectory]

/-- There are directories all the way to a directory. -/
theorem hasDirectory_of_front {root : Node} {front path : Path} (isFront : front <+: path)
    (here : root.hasDirectory path = true) : root.hasDirectory front = true := by
  obtain ⟨rest, rfl⟩ := isFront
  cases rest with
  | nil => simpa using here
  | cons name rest =>
      obtain ⟨attributes, entries, found⟩ := hasDirectory_iff.mp here
      exact hasDirectory_iff.mpr (exists_directory_of_find?_append found)

/-- A node can be put into the directories that there are. -/
theorem isSome_insert?_iff_hasDirectory {root : Node} {parent : Path} (child : Node)
    (name : String) :
    (root.insert? parent name child).isSome ↔ root.hasDirectory parent = true := by
  rw [isSome_insert?_iff, hasDirectory_iff_flat]

end Node

namespace Volume

/-! ### What survives of the current path -/

theorem prefix_surviving (node : Node) (path : Path) : surviving node path <+: path := by
  induction path generalizing node with
  | nil => simp [surviving]
  | cons name rest ih =>
      simp only [surviving]
      split
      next child found =>
        split
        · exact (List.prefix_cons_inj name).mpr (ih child)
        · exact List.nil_prefix
      next => exact List.nil_prefix

theorem hasDirectory_surviving {node : Node} (isDirectory : node.isDirectory = true)
    (path : Path) : node.hasDirectory (surviving node path) = true := by
  induction path generalizing node with
  | nil => simpa [surviving] using isDirectory
  | cons name rest ih =>
      simp only [surviving]
      split
      next child found =>
        split
        next childIsDirectory =>
          have below := ih childIsDirectory
          rw [Node.hasDirectory] at below ⊢
          rwa [Node.find?_cons, found]
        next => simpa using isDirectory
      next => simpa using isDirectory

/-- All directories on a path are on what survives of it. -/
theorem prefix_surviving_of_hasDirectory {node : Node} {front path : Path}
    (isFront : front <+: path) (here : node.hasDirectory front = true) :
    front <+: surviving node path := by
  induction path generalizing node front with
  | nil => rwa [surviving]
  | cons name rest ih =>
      cases front with
      | nil => exact List.nil_prefix
      | cons first more =>
          obtain ⟨rfl, isFrontBelow⟩ := List.cons_prefix_cons.mp isFront
          have child := Node.hasDirectory_of_front (⟨more, rfl⟩ : [first] <+: first :: more) here
          obtain ⟨attributes, entries, found⟩ := Node.hasDirectory_iff.mp child
          have isChild : node.child? first = some (.directory attributes entries) := by
            simpa [Node.find?_cons] using found
          have below : (Node.directory attributes entries).hasDirectory more = true := by
            rw [Node.hasDirectory] at here ⊢
            rwa [Node.find?_cons, isChild] at here
          simp only [surviving, isChild, Node.isDirectory, if_true, List.prefix_cons_inj]
          exact ih isFrontBelow below

/-- The whole path survives exactly if it leads to a directory. -/
theorem surviving_eq_self_iff {node : Node} (isDirectory : node.isDirectory = true) {path : Path} :
    surviving node path = path ↔ node.hasDirectory path = true := by
  constructor
  · intro same
    exact same ▸ hasDirectory_surviving isDirectory path
  · intro here
    have whole := prefix_surviving_of_hasDirectory List.prefix_rfl here
    exact (prefix_surviving node path).eq_of_length_le whole.length_le

/-! ### Saving and repairing -/

section

variable (now : Instant) (volume : Volume)

@[simp]
theorem save_root : (volume.save now).root = volume.root := rfl

@[simp]
theorem save_current : (volume.save now).current = volume.current := rfl

@[simp]
theorem save_home : (volume.save now).home = volume.home := rfl

@[simp]
theorem save_storageKey : (volume.save now).storageKey = volume.storageKey := rfl

@[simp]
theorem repair_root : volume.repair.root = volume.root := rfl

@[simp]
theorem repair_current : volume.repair.current = surviving volume.root volume.current := rfl

@[simp]
theorem repair_home : volume.repair.home = volume.home := rfl

@[simp]
theorem repair_storageKey : volume.repair.storageKey = volume.storageKey := rfl

@[simp]
theorem repair_store : volume.repair.store = volume.store := rfl

end

/-- The volume after an action or a change, whether it succeeds or fails. -/
def after {ε α : Type} (action : EStateM ε Volume α) (volume : Volume) : Volume :=
  match action volume with
  | .ok _ changed => changed
  | .error _ changed => changed

end Volume

/-! ### Operations as data -/

/-- An operation on a volume as data. -/
inductive Operation where
  | createDirectory (spelling : String)
  | createFile (spelling content : String)
  | writeFile (spelling content : String)
  | removeNode (spelling : String)
  | moveNode (source target : String)
  | changeDirectory (spelling : String)
  | importText (text : String)
  | reset
deriving DecidableEq, Repr

namespace Operation

/-- Performs an operation. -/
def perform (now : Instant) : Operation → Change Unit
  | createDirectory spelling => Volume.createDirectory now spelling
  | createFile spelling content => Volume.createFile now spelling content
  | writeFile spelling content => Volume.writeFile now spelling content
  | removeNode spelling => Volume.removeNode now spelling
  | moveNode source target => Volume.moveNode now source target
  | changeDirectory spelling => Volume.changeDirectory now spelling
  | importText text => do
      let _ ← Volume.importText now text
  | reset => fun volume => .ok () (volume.reset now)

/-- The volume after an operation. -/
def after (now : Instant) (operation : Operation) (volume : Volume) : Volume :=
  volume.after (operation.perform now)

/-- The volume after operations, each at its own time. -/
def run (performed : List (Instant × Operation)) (volume : Volume) : Volume :=
  performed.foldl (fun volume step => step.2.after step.1 volume) volume

@[simp]
theorem run_nil (volume : Volume) : run [] volume = volume :=
  rfl

@[simp]
theorem run_cons (step : Instant × Operation) (rest : List (Instant × Operation))
    (volume : Volume) : run (step :: rest) volume = run rest (step.2.after step.1 volume) :=
  rfl

theorem run_append (front back : List (Instant × Operation)) (volume : Volume) :
    run (front ++ back) volume = run back (run front volume) :=
  List.foldl_append

/-- What an operation that succeeds makes of a volume. -/
inductive Effect (now : Instant) (volume : Volume) : Operation → Volume → Prop where
  | createDirectory {spelling name : String} {parent : Path} {root : Node}
      (path : volume.resolve spelling = parent ++ [name])
      (free : volume.root.find? (parent ++ [name]) = none)
      (inserted : volume.root.insert? parent name (Node.newDirectory now name) = some root) :
      Effect now volume (.createDirectory spelling) (Volume.save now { volume with root })
  | createFile {spelling content name : String} {parent : Path} {root : Node}
      (path : volume.resolve spelling = parent ++ [name])
      (inserted : volume.root.insert? parent name (Node.newFile now name content) = some root) :
      Effect now volume (.createFile spelling content) (Volume.save now { volume with root })
  | writeNewFile {spelling content name : String} {parent : Path} {root : Node}
      (path : volume.resolve spelling = parent ++ [name])
      (free : volume.root.find? (parent ++ [name]) = none)
      (inserted : volume.root.insert? parent name (Node.newFile now name content) = some root) :
      Effect now volume (.writeFile spelling content) (Volume.save now { volume with root })
  | writeFile {spelling content old : String} {attributes : Attributes} {root : Node}
      (found : volume.root.find? (volume.resolve spelling) = some (.file attributes old))
      (replaced : volume.root.change? (Node.replaceContent? now content)
        (volume.resolve spelling) = some root) :
      Effect now volume (.writeFile spelling content) (Volume.save now { volume with root })
  | removeNode {spelling name : String} {parent : Path} {root : Node}
      (path : volume.resolve spelling = parent ++ [name])
      (erased : volume.root.erase? parent name = some root) :
      Effect now volume (.removeNode spelling) (Volume.save now (Volume.repair { volume with root }))
  | leaveNode {source target : String} (same : volume.resolve source = volume.resolve target)
      (found : (volume.root.find? (volume.resolve source)).isSome) :
      Effect now volume (.moveNode source target) volume
  | moveNode {source target name targetName : String} {parent targetParent : Path}
      {node inserted root : Node} (origin : volume.resolve source = parent ++ [name])
      (destination : volume.resolve target = targetParent ++ [targetName])
      (different : parent ++ [name] ≠ targetParent ++ [targetName])
      (found : volume.root.find? (parent ++ [name]) = some node)
      (isInserted : volume.root.insert? targetParent targetName
        (node.withAttributes (Volume.movedAttributes now targetName node.attributes)) =
          some inserted)
      (erased : inserted.erase? parent name = some root) :
      Effect now volume (.moveNode source target)
        (Volume.save now (Volume.repair { volume with root }))
  | changeDirectory {spelling : String}
      (isDirectory : volume.root.hasDirectory (volume.resolve spelling) = true) :
      Effect now volume (.changeDirectory spelling)
        (Volume.save now { volume with current := volume.resolve spelling })
  | importText {text : String} {snapshot : Snapshot}
      (isRead : Snapshot.read now text = .ok snapshot) :
      Effect now volume (.importText text) (Volume.save now (Volume.install snapshot volume))
  | reset : Effect now volume .reset (volume.reset now)

/-! ### What each operation does -/

variable (now : Instant) (volume : Volume)

theorem createDirectory_cases (spelling : String) :
    ((∃ fault, Volume.createDirectory now spelling volume = .error fault volume) ∧
      ∀ parent name, volume.resolve spelling = parent ++ [name] →
        volume.root.hasDirectory parent = true → (volume.root.find? (parent ++ [name])).isSome) ∨
    ∃ changed, Volume.createDirectory now spelling volume = .ok () changed ∧
      Effect now volume (.createDirectory spelling) changed := by
  unfold Volume.createDirectory
  cases path : Path.split? (volume.resolve spelling) with
  | none =>
      refine Or.inl ⟨⟨_, rfl⟩, ?_⟩
      intro parent name same
      rw [same, Path.split?_append] at path
      cases path
  | some place =>
      obtain ⟨parent, name⟩ := place
      have isPath := Path.split?_eq_some path
      dsimp only
      by_cases taken : (volume.node? spelling).isSome
      · rw [if_pos taken]
        refine Or.inl ⟨⟨_, rfl⟩, ?_⟩
        intro parent' name' same _
        rwa [← same]
      · rw [if_neg taken]
        have free : volume.root.find? (parent ++ [name]) = none := by
          rw [← isPath]
          exact Option.not_isSome_iff_eq_none.mp taken
        cases inserted : volume.root.insert? parent name (Node.newDirectory now name) with
        | none =>
            refine Or.inl ⟨⟨_, rfl⟩, ?_⟩
            intro parent' name' same isDirectory
            obtain ⟨rfl, rfl⟩ := List.append_singleton_inj.mp (same.symm.trans isPath)
            have isInserted := (Node.isSome_insert?_iff_hasDirectory
              (Node.newDirectory now name') name').mpr isDirectory
            rw [inserted] at isInserted
            cases isInserted
        | some root => exact Or.inr ⟨_, rfl, .createDirectory isPath free inserted⟩

theorem createFile_cases (spelling content : String) :
    ((∃ fault, Volume.createFile now spelling content volume = .error fault volume) ∧
      ∀ parent name, volume.resolve spelling = parent ++ [name] →
        ¬ volume.root.hasDirectory parent = true) ∨
    ∃ changed, Volume.createFile now spelling content volume = .ok () changed ∧
      ∃ parent name root, volume.resolve spelling = parent ++ [name] ∧
        volume.root.insert? parent name (Node.newFile now name content) = some root ∧
        changed = Volume.save now { volume with root } := by
  unfold Volume.createFile
  cases path : Path.split? (volume.resolve spelling) with
  | none =>
      refine Or.inl ⟨⟨_, rfl⟩, ?_⟩
      intro parent name same
      rw [same, Path.split?_append] at path
      cases path
  | some place =>
      obtain ⟨parent, name⟩ := place
      have isPath := Path.split?_eq_some path
      dsimp only
      cases inserted : volume.root.insert? parent name (Node.newFile now name content) with
      | none =>
          refine Or.inl ⟨⟨_, rfl⟩, ?_⟩
          intro parent' name' same isDirectory
          obtain ⟨rfl, rfl⟩ := List.append_singleton_inj.mp (same.symm.trans isPath)
          have isInserted := (Node.isSome_insert?_iff_hasDirectory
            (Node.newFile now name' content) name').mpr isDirectory
          rw [inserted] at isInserted
          cases isInserted
      | some root => exact Or.inr ⟨_, rfl, parent, name, root, isPath, inserted, rfl⟩

/-- A file that there is gets the text, a directory refuses it, and where there is nothing a file is
made. -/
theorem writeFile_cases (spelling content : String) :
    (volume.root.find? (volume.resolve spelling) = none ∧
      Volume.writeFile now spelling content volume =
        Volume.createFile now spelling content volume) ∨
    (volume.root.hasDirectory (volume.resolve spelling) = true ∧
      Volume.writeFile now spelling content volume = .error (.notAFile spelling) volume) ∨
    ∃ attributes old root,
      volume.root.find? (volume.resolve spelling) = some (.file attributes old) ∧
      volume.root.change? (Node.replaceContent? now content) (volume.resolve spelling) =
        some root ∧
      Volume.writeFile now spelling content volume =
        .ok () (Volume.save now { volume with root }) := by
  unfold Volume.writeFile
  cases found : volume.node? spelling with
  | none => exact Or.inl ⟨found, rfl⟩
  | some node =>
      unfold Volume.node? at found
      have changes := Node.isSome_change?_iff (Node.replaceContent? now content)
        (volume.resolve spelling) volume.root
      rw [found, Option.bind_some] at changes
      dsimp only
      cases node with
      | directory attributes entries =>
          refine Or.inr (Or.inl ⟨Node.hasDirectory_iff.mpr ⟨attributes, entries, found⟩, ?_⟩)
          cases changed : volume.root.change? (Node.replaceContent? now content)
              (volume.resolve spelling) with
          | none => rfl
          | some root =>
              rw [changed] at changes
              cases changes.mp rfl
      | file attributes old =>
          obtain ⟨root, changed⟩ := Option.isSome_iff_exists.mp (changes.mpr rfl)
          refine Or.inr (Or.inr ⟨attributes, old, root, found, changed, ?_⟩)
          rw [changed]

theorem removeNode_cases (spelling : String) :
    ((∃ fault, Volume.removeNode now spelling volume = .error fault volume) ∧
      (volume.resolve spelling = [] ∨ volume.root.find? (volume.resolve spelling) = none)) ∨
    ∃ changed, Volume.removeNode now spelling volume = .ok () changed ∧
      Effect now volume (.removeNode spelling) changed := by
  unfold Volume.removeNode
  cases path : Path.split? (volume.resolve spelling) with
  | none => exact Or.inl ⟨⟨_, rfl⟩, Or.inl (Path.split?_eq_none_iff.mp path)⟩
  | some place =>
      obtain ⟨parent, name⟩ := place
      have isPath := Path.split?_eq_some path
      dsimp only
      cases erased : volume.root.erase? parent name with
      | none =>
          refine Or.inl ⟨⟨_, rfl⟩, Or.inr ?_⟩
          have missing : ¬ (volume.root.flat (volume.resolve spelling)).isSome := by
            intro isThere
            rw [isPath] at isThere
            have isErased := Node.isSome_erase?_iff.mpr isThere
            rw [erased] at isErased
            cases isErased
          exact Node.flat_eq_none_iff.mp (Option.not_isSome_iff_eq_none.mp missing)
      | some root => exact Or.inr ⟨_, rfl, .removeNode isPath erased⟩

/-- The node that is moved is in its place until it is taken away. -/
theorem isSome_erase?_of_insert? {root node moved inserted : Node} {parent targetParent : Path}
    {name targetName : String} (found : root.find? (parent ++ [name]) = some node)
    (outside : ¬ targetParent ++ [targetName] <+: parent ++ [name])
    (isInserted : root.insert? targetParent targetName moved = some inserted) :
    (inserted.erase? parent name).isSome := by
  rw [Node.isSome_erase?_iff, Node.flat_insert? isInserted,
    FlatMap.graft_outside outside]
  simp [Node.flat, found]

/-- Neither of the two changes of a move that is carried out can fail after the other: it fails
only where there is no directory to move to. -/
theorem relocate_cases {source target : String} {node : Node}
    (found : volume.root.find? (volume.resolve source) = some node)
    (notBelow : ¬ volume.resolve source <+: volume.resolve target)
    (notAbove : ¬ volume.resolve target <+: volume.resolve source) :
    ((∃ fault, Volume.relocate now source target node (volume.resolve source)
      (volume.resolve target) volume = .error fault volume) ∧
      ¬ volume.root.hasDirectory (volume.resolve target).dropLast = true) ∨
    ∃ changed, Volume.relocate now source target node (volume.resolve source)
      (volume.resolve target) volume = .ok () changed ∧
      Effect now volume (.moveNode source target) changed := by
  unfold Volume.relocate
  cases destination : Path.split? (volume.resolve target) with
  | none =>
      rw [Path.split?_eq_none_iff.mp destination] at notAbove
      exact absurd List.nil_prefix notAbove
  | some place =>
      obtain ⟨targetParent, targetName⟩ := place
      have isDestination := Path.split?_eq_some destination
      dsimp only
      cases inserted : volume.root.insert? targetParent targetName
          (node.withAttributes (Volume.movedAttributes now targetName node.attributes)) with
      | none =>
          refine Or.inl ⟨⟨_, rfl⟩, ?_⟩
          rw [isDestination, List.dropLast_concat, ← Node.isSome_insert?_iff_hasDirectory, inserted]
          exact Bool.false_ne_true
      | some insertedRoot =>
          cases origin : Path.split? (volume.resolve source) with
          | none =>
              rw [Path.split?_eq_none_iff.mp origin] at notBelow
              exact absurd List.nil_prefix notBelow
          | some place =>
              obtain ⟨parent, name⟩ := place
              have isOrigin := Path.split?_eq_some origin
              rw [isOrigin] at found notBelow notAbove
              rw [isDestination] at notBelow notAbove
              obtain ⟨root, erased⟩ := Option.isSome_iff_exists.mp
                (isSome_erase?_of_insert? found notAbove inserted)
              have different : parent ++ [name] ≠ targetParent ++ [targetName] :=
                fun same => notBelow (same ▸ List.prefix_rfl)
              have effect := Effect.moveNode isOrigin isDestination different found inserted erased
              exact Or.inr ⟨_, by simp only [erased], effect⟩

theorem moveNode_cases (source target : String) :
    (∃ fault, Volume.moveNode now source target volume = .error fault volume) ∨
    ∃ changed, Volume.moveNode now source target volume = .ok () changed ∧
      Effect now volume (.moveNode source target) changed := by
  unfold Volume.moveNode
  dsimp only
  cases found : volume.root.find? (volume.resolve source) with
  | none => exact Or.inl ⟨_, rfl⟩
  | some node =>
      dsimp only
      by_cases same : volume.resolve source = volume.resolve target
      · rw [if_pos same]
        exact Or.inr ⟨volume, rfl, .leaveNode same (found ▸ rfl)⟩
      rw [if_neg same]
      split
      next => exact Or.inl ⟨_, rfl⟩
      next notBelow =>
        split
        next => exact Or.inl ⟨_, rfl⟩
        next notAbove =>
          split
          next => exact Or.inl ⟨_, rfl⟩
          next =>
            rw [List.isPrefixOf_iff_prefix] at notBelow notAbove
            exact (relocate_cases now volume found notBelow notAbove).imp_left And.left

/-- An operation fails and leaves the volume as it was, or succeeds with its effect. -/
theorem perform_cases (operation : Operation) :
    (∃ fault, operation.perform now volume = .error fault volume) ∨
    ∃ changed, operation.perform now volume = .ok () changed ∧
      Effect now volume operation changed := by
  cases operation with
  | createDirectory spelling =>
      exact (createDirectory_cases now volume spelling).imp_left And.left
  | createFile spelling content =>
      rcases createFile_cases now volume spelling content with
        ⟨failed, -⟩ | ⟨_, done, parent, name, root, path, inserted, rfl⟩
      · exact Or.inl failed
      · exact Or.inr ⟨_, done, .createFile path inserted⟩
  | writeFile spelling content =>
      dsimp only [perform]
      rcases writeFile_cases now volume spelling content with
        ⟨free, same⟩ | ⟨-, failed⟩ | ⟨attributes, old, root, found, replaced, done⟩
      · rw [same]
        rcases createFile_cases now volume spelling content with
          ⟨failed, -⟩ | ⟨_, done, parent, name, root, path, inserted, rfl⟩
        · exact Or.inl failed
        · exact Or.inr ⟨_, done, .writeNewFile path (path ▸ free) inserted⟩
      · exact Or.inl ⟨_, failed⟩
      · exact Or.inr ⟨_, done, .writeFile found replaced⟩
  | removeNode spelling => exact (removeNode_cases now volume spelling).imp_left And.left
  | moveNode source target => exact moveNode_cases now volume source target
  | changeDirectory spelling =>
      dsimp only [perform, Volume.changeDirectory]
      cases found : volume.root.find? (volume.resolve spelling) with
      | none => exact Or.inl ⟨_, rfl⟩
      | some node =>
          dsimp only
          split
          next isDirectory =>
            refine Or.inr ⟨_, rfl, .changeDirectory ?_⟩
            simpa [Node.hasDirectory, found] using isDirectory
          next => exact Or.inl ⟨_, rfl⟩
  | importText text =>
      dsimp only [perform, bind, EStateM.bind, Volume.importText]
      cases isRead : Snapshot.read now text with
      | error fault => exact Or.inl ⟨_, rfl⟩
      | ok snapshot => exact Or.inr ⟨_, rfl, .importText isRead⟩
  | reset => exact Or.inr ⟨_, rfl, .reset⟩

/-- An operation leaves the volume as it was or has its effect. -/
theorem after_cases (operation : Operation) :
    operation.after now volume = volume ∨
      Effect now volume operation (operation.after now volume) := by
  unfold after Volume.after
  rcases perform_cases now volume operation with ⟨fault, failed⟩ | ⟨changed, done, effect⟩
  · rw [failed]
    exact Or.inl rfl
  · rw [done]
    exact Or.inr effect

/-- A node is to be moved to where it is. -/
def idle (volume : Volume) : Operation → Bool
  | moveNode source target => volume.resolve source == volume.resolve target
  | _ => false

/-- An operation has nothing to do, or it ends with saving a volume whose store is the one there
was, but for the snapshot that is dropped when the volume starts again. -/
theorem Effect.saves {now : Instant} {volume changed : Volume} {operation : Operation}
    (effect : Effect now volume operation changed) :
    (operation.idle volume = true ∧ changed = volume) ∨
      (operation.idle volume = false ∧ ∃ unsaved : Volume, changed = unsaved.save now ∧
        unsaved.storageKey = volume.storageKey ∧ (unsaved.store = volume.store ∨
          unsaved.store = volume.store.after (Store.remove volume.storageKey))) := by
  have saved : ∀ unsaved : Volume, unsaved.storageKey = volume.storageKey →
      unsaved.store = volume.store → ∃ between : Volume, unsaved.save now = between.save now ∧
        between.storageKey = volume.storageKey ∧ (between.store = volume.store ∨
          between.store = volume.store.after (Store.remove volume.storageKey)) :=
    fun unsaved sameKey sameStore => ⟨unsaved, rfl, sameKey, Or.inl sameStore⟩
  cases effect with
  | createDirectory => exact Or.inr ⟨rfl, saved _ rfl rfl⟩
  | createFile => exact Or.inr ⟨rfl, saved _ rfl rfl⟩
  | writeNewFile => exact Or.inr ⟨rfl, saved _ rfl rfl⟩
  | writeFile => exact Or.inr ⟨rfl, saved _ rfl rfl⟩
  | removeNode => exact Or.inr ⟨rfl, saved _ rfl rfl⟩
  | leaveNode same => exact Or.inl ⟨beq_iff_eq.mpr same, rfl⟩
  | moveNode origin destination different =>
      refine Or.inr ⟨?_, saved _ rfl rfl⟩
      rw [idle, origin, destination]
      exact beq_false_of_ne different
  | changeDirectory => exact Or.inr ⟨rfl, saved _ rfl rfl⟩
  | importText => exact Or.inr ⟨rfl, saved _ rfl rfl⟩
  | reset => exact Or.inr ⟨rfl, _, rfl, rfl, Or.inr rfl⟩

/-! ### Operations in turn -/

/-- What every operation keeps is kept by operations in turn. -/
theorem run_keeps (holds : Volume → Prop) {performed : List (Instant × Operation)}
    (keeps : ∀ step ∈ performed, ∀ volume, holds volume → holds (step.2.after step.1 volume))
    {volume : Volume} (start : holds volume) : holds (run performed volume) := by
  induction performed generalizing volume with
  | nil => exact start
  | cons step rest ih =>
      have next := keeps step List.mem_cons_self volume start
      exact ih (fun other member => keeps other (List.mem_cons_of_mem _ member)) next

/-- No operation changes the home or the key under which snapshots are kept. -/
theorem run_home_storageKey (performed : List (Instant × Operation)) :
    (run performed volume).home = volume.home ∧
      (run performed volume).storageKey = volume.storageKey := by
  apply run_keeps fun later =>
    later.home = volume.home ∧ later.storageKey = volume.storageKey
  · intro ⟨now, operation⟩ _ before same
    rcases after_cases now before operation with unchanged | effect
    · rwa [unchanged]
    · generalize operation.after now before = changed at effect ⊢
      cases effect <;> exact same
  · exact ⟨rfl, rfl⟩

end Operation

end TreeShell
