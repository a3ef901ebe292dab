import TreeShell.Proofs.Operations
import TreeShell.Proofs.Records

/-!
# Well-formed volumes

In a volume that a store was opened into, and in every volume that operations make of it, the tree
is well-formed, its root is a directory named `/`, and the current path and the home consist of
names.
-/

namespace TreeShell

/-! ### The root -/

namespace Node

/-- A change below the root leaves its kind and its name alone if the change at a node does. -/
theorem sameRoot_change? {alter : Node → Option Node} {path : Path} {root changed : Node}
    (keeps : ∀ target altered, alter target = some altered →
      altered.isDirectory = target.isDirectory ∧ altered.name = target.name)
    (done : root.change? alter path = some changed) :
    changed.isDirectory = root.isDirectory ∧ changed.name = root.name := by
  cases path with
  | nil => exact keeps root changed (by simpa [change?_nil] using done)
  | cons name rest =>
      obtain ⟨attributes, entries, child, altered, rfl, -, -, rfl⟩ := change?_cons_eq_some done
      exact ⟨rfl, rfl⟩

theorem sameRoot_insert? {root child changed : Node} {parent : Path} {name : String}
    (done : root.insert? parent name child = some changed) :
    changed.isDirectory = root.isDirectory ∧ changed.name = root.name := by
  refine sameRoot_change? ?_ done
  intro target altered isAltered
  obtain ⟨attributes, entries, rfl, rfl⟩ := putChild?_eq_some isAltered
  exact ⟨rfl, rfl⟩

theorem sameRoot_erase? {root changed : Node} {parent : Path} {name : String}
    (done : root.erase? parent name = some changed) :
    changed.isDirectory = root.isDirectory ∧ changed.name = root.name := by
  refine sameRoot_change? ?_ done
  intro target altered isAltered
  obtain ⟨attributes, entries, child, rfl, -, rfl⟩ := removeChild?_eq_some isAltered
  exact ⟨rfl, rfl⟩

theorem sameRoot_replaceContent? {root changed : Node} {path : Path} {now : Instant}
    {content : String} (done : root.change? (replaceContent? now content) path = some changed) :
    changed.isDirectory = root.isDirectory ∧ changed.name = root.name := by
  refine sameRoot_change? ?_ done
  intro target altered isAltered
  obtain ⟨attributes, old, rfl, rfl⟩ := replaceContent?_eq_some isAltered
  exact ⟨rfl, rfl⟩

end Node

namespace Volume

variable {times : Instant → Prop} {now : Instant}

/-! ### The initial tree -/

/-- Trees that can be the root of a volume. -/
structure IsRoot (times : Instant → Prop) (root : Node) : Prop where
  wellFormed : root.WellFormed times
  isDirectory : root.isDirectory = true
  name : root.name = "/"

theorem isRoot_newRoot (timely : times now) : IsRoot times (Node.newRoot now) where
  wellFormed := Node.wellFormed_newRoot timely
  isDirectory := rfl
  name := rfl

theorem IsRoot.insert? {root child changed : Node} (isRoot : IsRoot times root) {parent : Path}
    {name : String} (isName : Path.IsName name) (childWellFormed : child.WellFormed times)
    (childName : child.name = name) (done : root.insert? parent name child = some changed) :
    IsRoot times changed where
  wellFormed := isRoot.wellFormed.insert? isName childWellFormed childName done
  isDirectory := (Node.sameRoot_insert? done).1.trans isRoot.isDirectory
  name := (Node.sameRoot_insert? done).2.trans isRoot.name

theorem IsRoot.erase? {root changed : Node} (isRoot : IsRoot times root) {parent : Path}
    {name : String} (done : root.erase? parent name = some changed) : IsRoot times changed where
  wellFormed := isRoot.wellFormed.erase? done
  isDirectory := (Node.sameRoot_erase? done).1.trans isRoot.isDirectory
  name := (Node.sameRoot_erase? done).2.trans isRoot.name

theorem IsRoot.replaceContent? {root changed : Node} (isRoot : IsRoot times root)
    (timely : times now) {path : Path} {content : String}
    (done : root.change? (Node.replaceContent? now content) path = some changed) :
    IsRoot times changed where
  wellFormed := isRoot.wellFormed.replaceContent? timely done
  isDirectory := (Node.sameRoot_replaceContent? done).1.trans isRoot.isDirectory
  name := (Node.sameRoot_replaceContent? done).2.trans isRoot.name

theorem IsRoot.plant {root : Node} (isRoot : IsRoot times root) {path : Path}
    (normal : path.IsNormal) {make : String → Node}
    (makes : ∀ name, (make name).WellFormed times ∧ (make name).name = name) :
    IsRoot times (plant path make root) := by
  unfold Volume.plant
  cases split : Path.split? path with
  | none => exact isRoot
  | some place =>
      obtain ⟨parent, name⟩ := place
      dsimp only
      cases inserted : root.insert? parent name (make name) with
      | none => exact isRoot
      | some changed =>
          have isPath := Path.split?_eq_some split
          have isName := normal name (isPath ▸ List.mem_append_right _ List.mem_cons_self)
          exact isRoot.insert? isName (makes name).1 (makes name).2 inserted

theorem isRoot_plantDirectories (timely : times now) {paths : List Path}
    (normal : ∀ path ∈ paths, path.IsNormal) {root : Node} (isRoot : IsRoot times root) :
    IsRoot times (paths.foldl (plantDirectory now) root) := by
  induction paths generalizing root with
  | nil => exact isRoot
  | cons path rest ih =>
      refine ih (fun other member => normal other (List.mem_cons_of_mem _ member)) ?_
      unfold plantDirectory
      split
      · exact isRoot
      · exact isRoot.plant (normal path List.mem_cons_self) fun name =>
          ⟨Node.wellFormed_newDirectory timely name, rfl⟩

theorem isRoot_plantFiles (timely : times now) {files : List (Path × String)}
    (normal : ∀ file ∈ files, file.1.IsNormal) {root : Node} (isRoot : IsRoot times root) :
    IsRoot times (files.foldl (plantFile now) root) := by
  induction files generalizing root with
  | nil => exact isRoot
  | cons file rest ih =>
      refine ih (fun other member => normal other (List.mem_cons_of_mem _ member)) ?_
      exact isRoot.plant (normal file List.mem_cons_self) fun name =>
        ⟨Node.wellFormed_newFile timely name file.2, rfl⟩

theorem isNormal_of_decide (path : Path) (holds : path.all fun name => decide (Path.IsName name)) :
    path.IsNormal := by
  intro name member
  exact of_decide_eq_true (List.all_eq_true.mp holds name member)

theorem isNormal_seedDirectories {home : Path} (normal : home.IsNormal) :
    ∀ path ∈ seedDirectories home, path.IsNormal := by
  intro path member
  rcases List.mem_append.mp member with systemOrWay | ofHome
  · rcases List.mem_append.mp systemOrWay with ofSystem | onWay
    · have allNormal : systemDirectories.all fun path =>
          path.all fun name => decide (Path.IsName name) := by decide
      exact isNormal_of_decide path (List.all_eq_true.mp allNormal path ofSystem)
    · obtain ⟨steps, -, rfl⟩ := List.mem_map.mp onWay
      exact normal.of_front (List.take_prefix _ _)
  · obtain ⟨name, isDirectory, rfl⟩ := List.mem_map.mp ofHome
    have allNames : homeDirectories.all fun name => decide (Path.IsName name) := by decide
    refine normal.append ?_
    intro other member
    rw [List.mem_singleton.mp member]
    exact of_decide_eq_true (List.all_eq_true.mp allNames name isDirectory)

theorem isNormal_seedFiles {home : Path} (normal : home.IsNormal) :
    ∀ file ∈ seedFiles home, file.1.IsNormal := by
  have below : ∀ names : Path, (names.all fun name => decide (Path.IsName name)) →
      (home ++ names).IsNormal := fun names holds => normal.append (isNormal_of_decide names holds)
  intro file member
  simp only [seedFiles, List.mem_cons, List.not_mem_nil, or_false] at member
  rcases member with rfl | rfl | rfl | rfl | rfl | rfl
  · exact below ["welcome.txt"] (by decide)
  · exact below ["Documents", "example.txt"] (by decide)
  · exact below ["Documents", "notes.md"] (by decide)
  · exact isNormal_of_decide ["etc", "passwd"] (by decide)
  · exact isNormal_of_decide ["etc", "hosts"] (by decide)
  · exact isNormal_of_decide ["var", "log", "system.log"] (by decide)

theorem isRoot_seedTree (timely : times now) {home : Path} (normal : home.IsNormal) :
    IsRoot times (seedTree now home) := by
  have bare := isRoot_plantDirectories timely (isNormal_seedDirectories normal)
    (isRoot_newRoot timely)
  have planted := isRoot_plantFiles timely (isNormal_seedFiles normal) bare
  rw [seedTree]
  exact planted

/-! ### Volumes -/

/-- Volumes whose tree is well-formed below a root named `/`, with paths of names. -/
structure WellFormed (times : Instant → Prop) (volume : Volume) : Prop where
  isRoot : IsRoot times volume.root
  current : volume.current.IsNormal
  home : volume.home.IsNormal

theorem WellFormed.save {volume : Volume} (wellFormed : volume.WellFormed times) (now : Instant) :
    (volume.save now).WellFormed times :=
  ⟨wellFormed.isRoot, wellFormed.current, wellFormed.home⟩

theorem WellFormed.repair {volume : Volume} (wellFormed : volume.WellFormed times) :
    volume.repair.WellFormed times :=
  ⟨wellFormed.isRoot, wellFormed.current.of_front (prefix_surviving _ _), wellFormed.home⟩

theorem WellFormed.withRoot {volume : Volume} (wellFormed : volume.WellFormed times) {root : Node}
    (isRoot : IsRoot times root) : ({ volume with root } : Volume).WellFormed times :=
  ⟨isRoot, wellFormed.current, wellFormed.home⟩

theorem wellFormed_seed (timely : times now) {volume : Volume} (normal : volume.home.IsNormal) :
    (seed now volume).WellFormed times := by
  refine WellFormed.save (WellFormed.repair ?_) now
  exact ⟨isRoot_seedTree timely normal, normal, normal⟩

theorem isRoot_install {snapshot : Snapshot} (wellFormed : snapshot.root.WellFormed times)
    (isDirectory : snapshot.root.isDirectory = true) (volume : Volume) :
    IsRoot times (install snapshot volume).root := by
  refine ⟨?_, ?_, ?_⟩
  · exact wellFormed.withAttributes wellFormed.timely
  · rw [← isDirectory]
    exact Node.isDirectory_withAttributes _ _
  · simp [install, Node.name]

theorem wellFormed_install {snapshot : Snapshot} (wellFormed : snapshot.root.WellFormed times)
    (isDirectory : snapshot.root.isDirectory = true) {volume : Volume}
    (normal : volume.home.IsNormal) : (install snapshot volume).WellFormed times := by
  refine WellFormed.repair ⟨?_, ?_, normal⟩
  · exact isRoot_install wellFormed isDirectory volume
  · exact Path.isNormal_follow Path.isNormal_nil _

/-- The snapshot of a volume is installed as it is, but for what its current path has lost. -/
theorem install_spell {root : Node} (isRoot : IsRoot times root) {current : Path}
    (normal : current.IsNormal) (timestamp : Option Instant) (version : Option String)
    (volume : Volume) : install ⟨root, Path.spell current, timestamp, version⟩ volume =
      repair { volume with root, current } := by
  have sameRoot : root.withAttributes { root.attributes with name := "/" } = root := by
    rw [← isRoot.name]
    cases root <;> rfl
  unfold install
  dsimp only
  rw [sameRoot, Path.follow_spell _ normal, List.nil_append]

/-- The last segment of a path that is named is a name. -/
theorem WellFormed.isName_of_resolve {volume : Volume} (wellFormed : volume.WellFormed times)
    {spelling name : String} {parent : Path} (path : volume.resolve spelling = parent ++ [name]) :
    Path.IsName name := by
  have normal : (volume.resolve spelling).IsNormal :=
    Path.isNormal_resolve wellFormed.current spelling
  rw [path] at normal
  exact normal name (List.mem_append_right _ List.mem_cons_self)

/-- A node that is put where it is moved to leaves the tree well-formed. -/
theorem WellFormed.isRoot_of_moved {volume : Volume} (wellFormed : volume.WellFormed times)
    (timely : times now) {target targetName : String} {origin targetParent : Path}
    {node inserted : Node} (found : volume.root.find? origin = some node)
    (destination : volume.resolve target = targetParent ++ [targetName])
    (isInserted : volume.root.insert? targetParent targetName
      (node.withAttributes (movedAttributes now targetName node.attributes)) = some inserted) :
    IsRoot times inserted := by
  have moved : (node.withAttributes
      (movedAttributes now targetName node.attributes)).WellFormed times :=
    (wellFormed.isRoot.wellFormed.find? found).1.withAttributes timely
  have movedName : (node.withAttributes
      (movedAttributes now targetName node.attributes)).name = targetName := by
    simp [Node.name, movedAttributes]
  exact wellFormed.isRoot.insert? (wellFormed.isName_of_resolve destination) moved movedName
    isInserted

variable (readable : ∀ text instant, Instant.read text = .ok instant → times instant)

include readable

/-- What a store is opened into is well-formed. -/
theorem wellFormed_load (timely : times now) (store : Store) (storageKey home : String) :
    (load now store storageKey home).WellFormed times := by
  have normal : (Path.follow [] home).IsNormal := Path.isNormal_follow Path.isNormal_nil home
  unfold load
  dsimp only
  split
  next text _ =>
    split
    next snapshot isRead =>
      obtain ⟨wellFormed, isDirectory⟩ := Snapshot.wellFormed_of_read timely readable isRead
      exact wellFormed_install wellFormed isDirectory normal
    next => exact wellFormed_seed timely normal
  next => exact wellFormed_seed timely normal

/-- The effect of an operation keeps a volume well-formed. -/
theorem WellFormed.effect {volume changed : Volume} (wellFormed : volume.WellFormed times)
    (timely : times now) {operation : Operation}
    (effect : operation.Effect now volume changed) : changed.WellFormed times := by
  cases effect with
  | createDirectory path free inserted =>
      have isRoot := wellFormed.isRoot.insert? (wellFormed.isName_of_resolve path)
        (Node.wellFormed_newDirectory timely _) rfl inserted
      exact (wellFormed.withRoot isRoot).save now
  | createFile path inserted =>
      have isRoot := wellFormed.isRoot.insert? (wellFormed.isName_of_resolve path)
        (Node.wellFormed_newFile timely _ _) rfl inserted
      exact (wellFormed.withRoot isRoot).save now
  | writeNewFile path free inserted =>
      have isRoot := wellFormed.isRoot.insert? (wellFormed.isName_of_resolve path)
        (Node.wellFormed_newFile timely _ _) rfl inserted
      exact (wellFormed.withRoot isRoot).save now
  | writeFile found replaced =>
      have isRoot := wellFormed.isRoot.replaceContent? timely replaced
      exact (wellFormed.withRoot isRoot).save now
  | removeNode path erased =>
      have isRoot := wellFormed.isRoot.erase? erased
      exact (wellFormed.withRoot isRoot).repair.save now
  | leaveNode => exact wellFormed
  | moveNode origin destination different found isInserted erased =>
      have isRoot := (wellFormed.isRoot_of_moved timely found destination isInserted).erase? erased
      exact (wellFormed.withRoot isRoot).repair.save now
  | @changeDirectory spelling isDirectory =>
      have moved : ({ volume with current := volume.resolve spelling } : Volume).WellFormed times :=
        ⟨wellFormed.isRoot, Path.isNormal_resolve wellFormed.current spelling, wellFormed.home⟩
      exact moved.save now
  | importText isRead =>
      obtain ⟨tree, isDirectory⟩ := Snapshot.wellFormed_of_read timely readable isRead
      exact (wellFormed_install tree isDirectory wellFormed.home).save now
  | reset => exact wellFormed_seed timely wellFormed.home

theorem WellFormed.after {volume : Volume} (wellFormed : volume.WellFormed times)
    (timely : times now) (operation : Operation) :
    (operation.after now volume).WellFormed times := by
  rcases Operation.after_cases now volume operation with same | effect
  · rw [same]
    exact wellFormed
  · exact wellFormed.effect readable timely effect

/-- Operations at such times keep a volume well-formed. -/
theorem WellFormed.run {volume : Volume} (wellFormed : volume.WellFormed times)
    {performed : List (Instant × Operation)} (timely : ∀ step ∈ performed, times step.1) :
    (Operation.run performed volume).WellFormed times := by
  refine Operation.run_keeps (WellFormed times) ?_ wellFormed
  intro step member before wellFormedBefore
  exact wellFormedBefore.after readable (timely step member) step.2

end Volume

end TreeShell
