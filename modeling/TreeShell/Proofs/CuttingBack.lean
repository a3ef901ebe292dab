import Mathlib.Data.List.Induction
import TreeShell.Proofs.CurrentPath

/-!
# Cutting the current path back

The part of the current path that is still there can be looked for from its end: as long as the path
does not lead to a directory, go on with its parent. Every turn shortens the path, so the search is
over at the root at the latest if the root is a directory, and it never ends if the root is a file.
It ends with what the repair of a volume makes the current path, which is the longest part of it
that leads to a directory. Removals, moves and imports end with such a repair.
-/

namespace TreeShell

namespace Node

/-- Going up from a path, one parent a turn, leads to a directory after so many turns. -/
inductive Climbs (root : Node) : Path → Path → Nat → Prop where
  | stop {path : Path} (here : root.hasDirectory path = true) : Climbs root path path 0
  | up {path final : Path} {turns : Nat} (notHere : ¬ root.hasDirectory path = true)
      (climbs : Climbs root path.dropLast final turns) : Climbs root path final (turns + 1)

variable {root : Node} {path final : Path} {turns : Nat}

theorem Climbs.hasDirectory (climbs : root.Climbs path final turns) :
    root.hasDirectory final = true := by
  induction climbs with
  | stop here => exact here
  | up notHere climbs ih => exact ih

theorem Climbs.isDirectory (climbs : root.Climbs path final turns) : root.isDirectory = true := by
  rw [← hasDirectory_nil]
  exact hasDirectory_of_front List.nil_prefix climbs.hasDirectory

/-- Going up ends exactly if the root is a directory, whatever path it starts from. -/
theorem exists_climbs_iff :
    (∃ final turns, root.Climbs path final turns) ↔ root.isDirectory = true := by
  constructor
  · rintro ⟨final, turns, climbs⟩
    exact climbs.isDirectory
  · intro isDirectory
    induction path using List.reverseRecOn with
    | nil => exact ⟨[], 0, .stop (by simpa using isDirectory)⟩
    | append_singleton parent name ih =>
        by_cases here : root.hasDirectory (parent ++ [name]) = true
        · exact ⟨_, 0, .stop here⟩
        · obtain ⟨final, turns, climbs⟩ := ih
          refine ⟨final, turns + 1, .up here ?_⟩
          rwa [List.dropLast_concat]

/-- Every turn takes one name away. -/
theorem Climbs.length_add_turns (climbs : root.Climbs path final turns) :
    final.length + turns = path.length := by
  induction climbs with
  | stop here => simp
  | @up path final turns notHere climbs ih =>
      have notRoot : path ≠ [] := by
        rintro rfl
        exact notHere (by simpa using climbs.isDirectory)
      have someName := List.length_pos_iff.mpr notRoot
      rw [List.length_dropLast] at ih
      omega

/-- Of a path that leads to no directory as much survives as of its parent. -/
theorem surviving_dropLast (isDirectory : root.isDirectory = true)
    (notHere : ¬ root.hasDirectory path = true) :
    Volume.surviving root path.dropLast = Volume.surviving root path := by
  have isFront := Volume.prefix_surviving root path
  have survives := Volume.hasDirectory_surviving isDirectory path
  have isParentFront := Volume.prefix_surviving root path.dropLast
  have parentSurvives := Volume.hasDirectory_surviving isDirectory path.dropLast
  have inParent : Volume.surviving root path <+: path.dropLast := by
    apply List.prefix_of_prefix_length_le isFront (List.dropLast_prefix path)
    have different : (Volume.surviving root path).length ≠ path.length :=
      fun same => notHere (isFront.eq_of_length same ▸ survives)
    have shorter := isFront.length_le
    rw [List.length_dropLast]
    omega
  have notLess := Volume.prefix_surviving_of_hasDirectory inParent survives
  have notMore := Volume.prefix_surviving_of_hasDirectory
    (isParentFront.trans (List.dropLast_prefix path)) parentSurvives
  exact notMore.eq_of_length_le notLess.length_le

/-- Going up ends with what survives of the path. -/
theorem Climbs.eq_surviving (climbs : root.Climbs path final turns) :
    final = Volume.surviving root path := by
  induction climbs with
  | @stop path here =>
      have isDirectory := (Climbs.stop here).isDirectory
      exact ((Volume.surviving_eq_self_iff isDirectory).mpr here).symm
  | up notHere climbs ih => rw [ih, surviving_dropLast climbs.isDirectory notHere]

end Node

namespace Volume

variable {now : Instant} {volume changed : Volume}

theorem cutBack_repair (isDirectory : volume.root.isDirectory = true) :
    volume.repair.CutBack volume.current :=
  cutBack_of_surviving isDirectory rfl

theorem repair_eq_self_iff (isDirectory : volume.root.isDirectory = true) :
    volume.repair = volume ↔ volume.Stands := by
  rw [Stands, ← surviving_eq_self_iff isDirectory]
  constructor
  · intro same
    exact congrArg Volume.current same
  · intro same
    rw [repair, same]

theorem cutBack_of_removeNode (isDirectory : volume.root.isDirectory = true) {spelling : String}
    (done : removeNode now spelling volume = .ok () changed) : changed.CutBack volume.current := by
  rcases Operation.removeNode_cases now volume spelling with
    ⟨⟨fault, failed⟩, -⟩ | ⟨changed', done', effect⟩
  · cases done.symm.trans failed
  · cases done.symm.trans done'
    cases effect with
    | removeNode path erased =>
        have stillDirectory := (Node.sameRoot_erase? erased).1.trans isDirectory
        exact cutBack_of_surviving stillDirectory rfl

theorem cutBack_of_moveNode (isDirectory : volume.root.isDirectory = true)
    {source target : String} (different : volume.resolve source ≠ volume.resolve target)
    (done : moveNode now source target volume = .ok () changed) :
    changed.CutBack volume.current := by
  rcases Operation.moveNode_cases now volume source target with
    ⟨fault, failed⟩ | ⟨changed', done', effect⟩
  · cases done.symm.trans failed
  · cases done.symm.trans done'
    cases effect with
    | leaveNode same => exact absurd same different
    | moveNode _ _ _ _ inserted erased =>
        have stillDirectory := (Node.sameRoot_erase? erased).1.trans
          ((Node.sameRoot_insert? inserted).1.trans isDirectory)
        exact cutBack_of_surviving stillDirectory rfl

/-- An import starts from the current path that the snapshot names, whatever was current before. -/
theorem cutBack_of_importText {text : String} {info : SnapshotInfo}
    (done : importText now text volume = .ok info changed) :
    ∃ snapshot, Snapshot.read now text = .ok snapshot ∧
      changed.CutBack (Path.follow [] snapshot.currentPath) := by
  unfold importText at done
  split at done
  next => cases done
  next snapshot isRead =>
    cases done
    obtain ⟨-, rootIsDirectory⟩ : snapshot.root.WellFormed (fun _ => True) ∧
        snapshot.root.isDirectory = true :=
      Snapshot.wellFormed_of_read trivial (fun _ _ _ => trivial) isRead
    refine ⟨snapshot, isRead, cutBack_of_surviving ?_ rfl⟩
    exact (Node.isDirectory_withAttributes _ _).trans rootIsDirectory

/-- In a volume whose root is a directory the search for a directory from the current path upwards
ends after at most one turn for every name, and always with the current path of the repaired volume.
This is the longest part of the current path that leads to a directory; so it is no longer than the
current path, and nothing changes exactly if the path leads to a directory already. A removal, a
proper move and an import that succeed leave it as the current path, the import starting from the
path that the snapshot names. -/
theorem cutBack_of_every_repair (volume : Volume) (isDirectory : volume.root.isDirectory = true) :
    (∃ turns ≤ volume.current.length,
      volume.root.Climbs volume.current volume.repair.current turns) ∧
    (∀ final turns, volume.root.Climbs volume.current final turns →
      final = volume.repair.current) ∧
    volume.repair.CutBack volume.current ∧
    volume.repair.current.length ≤ volume.current.length ∧
    (volume.repair = volume ↔ volume.Stands) ∧
    (∀ now spelling changed, removeNode now spelling volume = .ok () changed →
      changed.CutBack volume.current) ∧
    (∀ now source target changed, volume.resolve source ≠ volume.resolve target →
      moveNode now source target volume = .ok () changed → changed.CutBack volume.current) ∧
    ∀ now text info changed, importText now text volume = .ok info changed →
      ∃ snapshot, Snapshot.read now text = .ok snapshot ∧
        changed.CutBack (Path.follow [] snapshot.currentPath) := by
  have cutBack := cutBack_repair isDirectory
  refine ⟨?_, fun final turns climbs => climbs.eq_surviving, cutBack, cutBack.isFront.length_le,
    repair_eq_self_iff isDirectory, fun now spelling changed => cutBack_of_removeNode isDirectory,
    fun now source target changed => cutBack_of_moveNode isDirectory,
    fun now text info changed => cutBack_of_importText⟩
  obtain ⟨final, turns, climbs⟩ : ∃ final turns, volume.root.Climbs volume.current final turns :=
    Node.exists_climbs_iff.mpr isDirectory
  refine ⟨turns, ?_, ?_⟩
  · have counted := climbs.length_add_turns
    omega
  · rw [repair_current, ← climbs.eq_surviving]
    exact climbs

/-- A directory above the current one is removed, and a path that runs through a file is repaired.
-/
theorem cutBack_of_every_repair_ancestor :
    let volume := Event.run [.operate ⟨0, 0⟩ (.changeDirectory "Documents")]
      (load ⟨0, 0⟩ (.memory []) "fs" "/home/user")
    let astray : Volume := { volume with current := ["etc", "hosts", "x"] }
    (volume.root.isDirectory = true ∧ volume.current = ["home", "user", "Documents"] ∧
      ∃ changed, removeNode ⟨60, 0⟩ ".." volume = .ok () changed ∧
        changed.CutBack volume.current ∧ changed.current = ["home"]) ∧
    astray.root.isDirectory = true ∧ astray.repair.CutBack ["etc", "hosts", "x"] ∧
      ¬ astray.Stands ∧ astray.repair ≠ astray := by
  intro volume astray
  have isDirectory : volume.root.isDirectory = true := by decide +kernel
  have isCurrent : volume.current = ["home", "user", "Documents"] := by decide +kernel
  have notRoot : volume.resolve ".." ≠ [] := by decide +kernel
  have isThere : (volume.root.find? (volume.resolve "..")).isSome := by decide +kernel
  have isLeft : (volume.after (removeNode ⟨60, 0⟩ "..")).current = ["home"] := by decide +kernel
  obtain ⟨changed, done⟩ : ∃ changed, removeNode ⟨60, 0⟩ ".." volume = .ok () changed := by
    rcases Operation.removeNode_cases ⟨60, 0⟩ volume ".." with
      ⟨-, isRoot | missing⟩ | ⟨changed, done, -⟩
    · exact absurd isRoot notRoot
    · simp [missing] at isThere
    · exact ⟨changed, done⟩
  have cutBack := (cutBack_of_every_repair volume isDirectory).2.2.2.2.2.1 ⟨60, 0⟩ ".." changed done
  rw [after, done] at isLeft
  have astrayIsDirectory : astray.root.isDirectory = true := isDirectory
  obtain ⟨-, -, repaired, -, repairs, -⟩ := cutBack_of_every_repair astray astrayIsDirectory
  have lost : ¬ astray.Stands := by
    unfold Stands
    decide +kernel
  exact ⟨⟨isDirectory, isCurrent, changed, done, cutBack, isLeft⟩, astrayIsDirectory, repaired,
    lost, fun same => lost (repairs.mp same)⟩

end Volume

end TreeShell
