import TreeShell.Proofs.Session

/-!
# Volumes as flat maps

In a session a volume acts as the flat map of its tree. Each operation on one place succeeds under a
condition on the map at the place and its parent, and turns the map into another one that is stated
outright; so nothing else changes anywhere. What is looked up is what the map says.
-/

namespace TreeShell

namespace FlatMap

/-- There is a directory at a path. -/
def HasDirectory (map : FlatMap) (path : Path) : Prop :=
  ∃ attributes, map path = some (.directory attributes)

theorem hasDirectory_flat_iff {root : Node} {path : Path} :
    root.flat.HasDirectory path ↔ root.hasDirectory path = true :=
  Node.hasDirectory_iff_flat.symm

end FlatMap

namespace Path

/-- A path other than the root is its parent and a name. -/
theorem eq_dropLast_append {path : Path} (notRoot : path ≠ []) :
    ∃ parent name, path = parent ++ [name] ∧ path.dropLast = parent ∧ path.getLastD "" = name := by
  obtain ⟨parent, name, rfl⟩ := (List.eq_nil_or_concat path).resolve_left notRoot
  exact ⟨parent, name, by simp⟩

end Path

namespace Volume

/-- A change succeeds exactly under a condition and then makes a certain map of the tree; if it
fails it leaves the volume as it was. -/
structure Maps (volume : Volume) (change : Change Unit) (condition : Prop) (result : FlatMap) :
    Prop where
  ok_iff : (∃ changed, change volume = .ok () changed) ↔ condition
  ok : ∀ changed, change volume = .ok () changed → changed.root.flat = result
  error : ∀ fault changed, change volume = .error fault changed → changed = volume

variable {volume changed : Volume} {change : Change Unit} {condition : Prop} {result : FlatMap}

theorem maps_of_error {fault : FileFault} (failed : change volume = .error fault volume)
    (refused : ¬ condition) : volume.Maps change condition result where
  ok_iff := iff_of_false (fun ⟨_, done⟩ => by cases failed.symm.trans done) refused
  ok := fun _ done => by cases failed.symm.trans done
  error := fun _ _ failed' => by
    cases failed.symm.trans failed'
    rfl

theorem maps_of_ok (done : change volume = .ok () changed) (holds : condition)
    (same : changed.root.flat = result) : volume.Maps change condition result where
  ok_iff := iff_of_true ⟨changed, done⟩ holds
  ok := fun _ done' => by
    cases done.symm.trans done'
    exact same
  error := fun _ _ failed => by cases done.symm.trans failed

/-! ### Changing -/

theorem maps_createDirectory (now : Instant) (spelling : String) :
    let path := volume.resolve spelling
    volume.Maps (Volume.createDirectory now spelling)
      (path ≠ [] ∧ volume.root.flat.HasDirectory path.dropLast ∧ volume.root.flat path = none)
      (volume.root.flat.set path (Node.newDirectory now (path.getLastD "")).label) := by
  intro path
  rcases Operation.createDirectory_cases now volume spelling with
    ⟨⟨fault, failed⟩, refused⟩ | ⟨changed, done, effect⟩
  · refine maps_of_error failed ?_
    rintro ⟨notRoot, isDirectory, free⟩
    obtain ⟨parent, name, isPath, isParent, -⟩ := Path.eq_dropLast_append notRoot
    rw [isParent, FlatMap.hasDirectory_flat_iff] at isDirectory
    have taken := refused parent name isPath isDirectory
    rw [← isPath, Node.flat_eq_none_iff.mp free] at taken
    cases taken
  · cases effect with
    | @createDirectory _ name parent root isPath free inserted =>
        have same : path = parent ++ [name] := isPath
        have isDirectory : volume.root.flat.HasDirectory parent :=
          Node.isSome_insert?_iff.mp (Option.isSome_of_eq_some inserted)
        refine maps_of_ok done ⟨?_, ?_, ?_⟩ ?_
        · simp [same]
        · simpa [same] using isDirectory
        · rw [same]
          exact Node.flat_eq_none_iff.mpr free
        · rw [save_root, Node.flat_insert? inserted, Node.graft_newDirectory,
            FlatMap.plant_eq_set (Node.flat_append_of_free free), same]
          simp

theorem maps_createFile (now : Instant) (spelling content : String) :
    let path := volume.resolve spelling
    volume.Maps (Volume.createFile now spelling content)
      (path ≠ [] ∧ volume.root.flat.HasDirectory path.dropLast)
      (volume.root.flat.plant path (Node.newFile now (path.getLastD "") content).label) := by
  intro path
  rcases Operation.createFile_cases now volume spelling content with
    ⟨⟨fault, failed⟩, refused⟩ | ⟨changed, done, parent, name, root, isPath, inserted, rfl⟩
  · refine maps_of_error failed ?_
    rintro ⟨notRoot, isDirectory⟩
    obtain ⟨parent, name, isPath, isParent, -⟩ := Path.eq_dropLast_append notRoot
    rw [isParent, FlatMap.hasDirectory_flat_iff] at isDirectory
    exact refused parent name isPath isDirectory
  · have same : path = parent ++ [name] := isPath
    have isDirectory : volume.root.flat.HasDirectory parent :=
      Node.isSome_insert?_iff.mp (Option.isSome_of_eq_some inserted)
    refine maps_of_ok done ⟨?_, ?_⟩ ?_
    · simp [same]
    · simpa [same] using isDirectory
    · rw [save_root, Node.flat_insert? inserted, Node.graft_newFile, same]
      simp

theorem maps_writeFile {attributes : Attributes} {old : String} (now : Instant)
    (spelling content : String)
    (isFile : volume.root.flat (volume.resolve spelling) = some (.file attributes old)) :
    volume.Maps (Volume.writeFile now spelling content) True
      (volume.root.flat.set (volume.resolve spelling)
        (.file { attributes with modified := now } content)) := by
  have found := Node.flat_eq_file_iff.mp isFile
  rcases Operation.writeFile_cases now volume spelling content with
    ⟨free, -⟩ | ⟨isDirectory, -⟩ | ⟨attributes', old', root, found', replaced, done⟩
  · cases found.symm.trans free
  · obtain ⟨attributes', entries, found'⟩ := Node.hasDirectory_iff.mp isDirectory
    cases found.symm.trans found'
  · cases found.symm.trans found'
    exact maps_of_ok done trivial (Node.flat_replaceContent? replaced isFile)

theorem maps_removeNode {times : Instant → Prop} (wellFormed : volume.WellFormed times)
    (now : Instant) (spelling : String) :
    let path := volume.resolve spelling
    volume.Maps (Volume.removeNode now spelling)
      (path ≠ [] ∧ volume.root.flat path ≠ none) (volume.root.flat.prune path) := by
  intro path
  rcases Operation.removeNode_cases now volume spelling with
    ⟨⟨fault, failed⟩, refused⟩ | ⟨changed, done, effect⟩
  · refine maps_of_error failed ?_
    rintro ⟨notRoot, isThere⟩
    exact refused.elim notRoot fun missing => isThere (Node.flat_eq_none_iff.mpr missing)
  · cases effect with
    | @removeNode _ name parent root isPath erased =>
        have same : path = parent ++ [name] := isPath
        have isThere := Node.isSome_erase?_iff.mp (Option.isSome_of_eq_some erased)
        refine maps_of_ok done ⟨?_, ?_⟩ ?_
        · simp [same]
        · rw [same]
          exact Option.isSome_iff_ne_none.mp isThere
        · rw [save_root, repair_root, same]
          exact Node.flat_erase? erased wellFormed.isRoot.wellFormed.ordered_of_find?

/-- An operation leaves the volume as it was, or its condition holds and the map is the one
stated. -/
theorem Maps.after_cases {now : Instant} (operation : Operation)
    (maps : volume.Maps (operation.perform now) condition result) :
    operation.after now volume = volume ∨
      condition ∧ (operation.after now volume).root.flat = result := by
  unfold Operation.after after
  cases outcome : operation.perform now volume with
  | ok value changed => exact Or.inr ⟨maps.ok_iff.mp ⟨changed, outcome⟩, maps.ok changed outcome⟩
  | error fault changed => exact Or.inl (maps.error fault changed outcome)

/-- A removal does nothing, or it takes away what is in a place and below, and cuts the current path
back. -/
theorem after_removeNode {times : Instant → Prop} (wellFormed : volume.WellFormed times)
    (now : Instant) (spelling : String) :
    let path := volume.resolve spelling
    let later := (Operation.removeNode spelling).after now volume
    later = volume ∨ path ≠ [] ∧ volume.root.flat path ≠ none ∧
      later.root.flat = volume.root.flat.prune path ∧
      later.current = surviving later.root volume.current := by
  dsimp only
  rcases Operation.after_cases now volume (.removeNode spelling) with same | effect
  · exact Or.inl same
  rcases Maps.after_cases (.removeNode spelling) (maps_removeNode wellFormed now spelling) with
    same | ⟨⟨notRoot, isThere⟩, isPruned⟩
  · exact Or.inl same
  · refine Or.inr ⟨notRoot, isThere, isPruned, ?_⟩
    generalize (Operation.removeNode spelling).after now volume = later at effect ⊢
    cases effect
    rfl

/-! ### Looking up -/

theorem contentOf_eq (spelling : String) :
    volume.contentOf spelling =
      match volume.root.flat (volume.resolve spelling) with
      | none => .error (.notFound spelling)
      | some (.directory _) => .error (.notAFile spelling)
      | some (.file _ content) => .ok content := by
  unfold contentOf node? Node.flat
  cases volume.root.find? (volume.resolve spelling) with
  | none => rfl
  | some node => cases node <;> rfl

theorem listDirectory_ok_iff {spelling : Option String} {entries : List (String × Node)} :
    volume.listDirectory spelling = .ok entries ↔
      ∃ attributes, volume.root.find?
        (volume.resolve (spelling.getD (Path.spell volume.current))) =
          some (.directory attributes entries) := by
  unfold listDirectory node?
  dsimp only
  cases volume.root.find? (volume.resolve (spelling.getD (Path.spell volume.current))) with
  | none => simp
  | some node => cases node <;> simp [Node.entries?]

end Volume

end TreeShell
