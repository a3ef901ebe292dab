import TreeShell.Proofs.CurrentPath
import TreeShell.Proofs.Failures
import TreeShell.Proofs.Refinement

/-!
# Moving a node

A move puts the node at its destination first and takes it away from its origin after that. The
guards before the two changes leave only origins and destinations that lie beside each other, so
neither change touches what the other one is about: the second one cannot fail, the whole node
arrives, and everything beside the two places stays.
-/

namespace TreeShell

namespace FlatMap

/-- There is nothing at a path, or a file, or a directory without entries. -/
def Vacant (map : FlatMap) (path : Path) : Prop :=
  map path = none ∨ (∃ attributes content, map path = some (.file attributes content)) ∨
    map.HasDirectory path ∧ ∀ name, map (path ++ [name]) = none

/-- A node can be moved from one path to another one. -/
structure Movable (map : FlatMap) (origin destination : Path) : Prop where
  originNotRoot : origin ≠ []
  destinationNotRoot : destination ≠ []
  notBelow : ¬ origin <+: destination
  notAbove : ¬ destination <+: origin
  parent : map.HasDirectory destination.dropLast
  vacant : map.Vacant destination

/-- A place is vacant unless there is a directory with entries. -/
theorem vacant_flat_iff {root : Node} {path : Path} : root.flat.Vacant path ↔
    ¬ ((root.find? path).bind Node.entries?).any (!·.isEmpty) = true := by
  unfold Vacant HasDirectory
  cases found : root.find? path with
  | none => simp [Node.flat_eq_none_iff.mpr found]
  | some node =>
      have flatBelow := Node.flat_append_of_find? found
      cases node with
      | file attributes content => simp [Node.flat_eq_file_iff.mpr found, Node.entries?]
      | directory attributes entries =>
          have here := Node.flat_eq_directory_iff.mpr ⟨entries, found⟩
          have isEmpty : (∀ name, root.flat (path ++ [name]) = none) ↔ entries = [] := by
            simp only [flatBelow, Node.flat_directory_cons]
            cases entries with
            | nil => simp [Entries.get?]
            | cons entry rest =>
                refine iff_of_false (fun allFree => ?_) (List.cons_ne_nil _ _)
                have free := allFree entry.1
                simp [Entries.get?] at free
          simp [here, isEmpty, Node.entries?]

end FlatMap

namespace Volume

variable {now : Instant} {volume changed : Volume} {source target : String}

/-! ### When a move succeeds -/

theorem moveNode_of_eq (now : Instant) {node : Node}
    (found : volume.root.find? (volume.resolve source) = some node)
    (same : volume.resolve source = volume.resolve target) :
    moveNode now source target volume = .ok () volume := by
  simp [moveNode, ← same, found]

/-- A node that is there and is to go somewhere else goes there exactly if it can be moved. -/
theorem moveNode_cases_of_ne (now : Instant) {node : Node}
    (found : volume.root.find? (volume.resolve source) = some node)
    (different : volume.resolve source ≠ volume.resolve target) :
    (¬ volume.root.flat.Movable (volume.resolve source) (volume.resolve target) ∧
      ∃ fault, moveNode now source target volume = .error fault volume) ∨
    (volume.root.flat.Movable (volume.resolve source) (volume.resolve target) ∧
      ∃ changed, moveNode now source target volume = .ok () changed ∧
        Operation.Effect now volume (.moveNode source target) changed) := by
  unfold moveNode
  simp only [found, if_neg different, List.isPrefixOf_iff_prefix]
  split
  next below => exact Or.inl ⟨fun movable => movable.notBelow below, _, rfl⟩
  next notBelow =>
    split
    next above => exact Or.inl ⟨fun movable => movable.notAbove above, _, rfl⟩
    next notAbove =>
      split
      next occupied =>
        exact Or.inl ⟨fun movable => FlatMap.vacant_flat_iff.mp movable.vacant occupied, _, rfl⟩
      next vacant =>
        rcases Operation.relocate_cases now volume found notBelow notAbove with
          ⟨failed, noParent⟩ | ⟨changed, done, effect⟩
        · refine Or.inl ⟨fun movable => noParent ?_, failed⟩
          exact FlatMap.hasDirectory_flat_iff.mp movable.parent
        · refine Or.inr ⟨?_, changed, done, effect⟩
          have parent : volume.root.flat.HasDirectory (volume.resolve target).dropLast := by
            cases effect with
            | leaveNode same => exact absurd same different
            | moveNode _ destination _ _ isInserted =>
                rw [destination, List.dropLast_concat]
                exact Node.isSome_insert?_iff.mp (Option.isSome_of_eq_some isInserted)
          exact
            { originNotRoot := fun isRoot => notBelow (isRoot ▸ List.nil_prefix)
              destinationNotRoot := fun isRoot => notAbove (isRoot ▸ List.nil_prefix)
              notBelow, notAbove, parent
              vacant := FlatMap.vacant_flat_iff.mpr vacant }

theorem moveNode_ok_iff : (∃ changed, moveNode now source target volume = .ok () changed) ↔
    volume.root.flat (volume.resolve source) ≠ none ∧
      (volume.resolve source = volume.resolve target ∨
        volume.root.flat.Movable (volume.resolve source) (volume.resolve target)) := by
  rw [Ne, Node.flat_eq_none_iff]
  cases found : volume.root.find? (volume.resolve source) with
  | none => simp [moveNode, found]
  | some node =>
      by_cases same : volume.resolve source = volume.resolve target
      · simp [moveNode_of_eq now found same, same]
      · rcases moveNode_cases_of_ne now found same with
          ⟨unmovable, fault, failed⟩ | ⟨movable, changed, done, -⟩
        · simp [failed, same, unmovable]
        · simp [done, movable]

/-! ### What a move does -/

/-- What a move to another place makes of a volume. -/
structure Moved (now : Instant) (origin destination : Path) (before after : Volume) : Prop where
  arrived : ∃ node, before.root.find? origin = some node ∧
    after.root.find? destination = some (node.withAttributes
      { node.attributes with
        name := destination.getLastD "", owner := "user", group := "user", modified := now })
  below : ∀ rest, rest ≠ [] →
    after.root.find? (destination ++ rest) = before.root.find? (origin ++ rest)
  gone : ∀ rest, after.root.find? (origin ++ rest) = none
  beside : ∀ path, ¬ origin <+: path → ¬ destination <+: path →
    after.root.flat path = before.root.flat path
  cutBack : after.CutBack before.current

theorem moved_of_effect (wellFormed : volume.WellFormed fun _ => True)
    (movable : volume.root.flat.Movable (volume.resolve source) (volume.resolve target))
    (effect : Operation.Effect now volume (.moveNode source target) changed) :
    Moved now (volume.resolve source) (volume.resolve target) volume changed := by
  have isRootAfter := (wellFormed.effect (fun _ _ _ => trivial) trivial effect).isRoot
  have notBelow := movable.notBelow
  have notAbove := movable.notAbove
  cases effect with
  | leaveNode same => exact absurd (same ▸ List.prefix_rfl) notBelow
  | @moveNode _ _ name targetName parent targetParent node inserted root origin destination
      different found isInserted erased =>
      rw [origin, destination] at notBelow notAbove ⊢
      have isRoot := wellFormed.isRoot_of_moved trivial found destination isInserted
      -- The node that is taken away lies beside everything that has arrived.
      have findArrived : ∀ rest, root.find? (targetParent ++ [targetName] ++ rest) =
          (node.withAttributes (movedAttributes now targetName node.attributes)).find? rest := by
        intro rest
        rw [Node.find?_erase?_beside erased, Node.find?_insert?_append isInserted]
        · intro below
          exact (List.prefix_or_prefix_of_prefix below (List.prefix_append _ _)).elim
            notBelow notAbove
        · exact fun above => notAbove ((List.prefix_append _ _).trans above)
      have flatErased := Node.flat_erase? erased isRoot.wellFormed.ordered_of_find?
      refine
        { arrived := ⟨node, found, ?_⟩, below := ?_, gone := ?_, beside := ?_
          cutBack := cutBack_of_surviving isRootAfter.isDirectory rfl }
      · have top := findArrived []
        rw [List.append_nil, Node.find?_nil] at top
        simpa [movedAttributes, Node.defaultOwner] using top
      · intro rest below
        rw [save_root, repair_root, findArrived, Node.find?_append, found, Option.bind_some,
          Node.find?_withAttributes _ _ below]
      · intro rest
        rw [save_root, repair_root, ← Node.flat_eq_none_iff, flatErased]
        exact if_pos (List.prefix_append _ _)
      · intro path notBelowOrigin notBelowDestination
        rw [save_root, repair_root, flatErased, FlatMap.prune, if_neg notBelowOrigin,
          Node.flat_insert? isInserted, FlatMap.graft_outside notBelowDestination]

theorem moved_of_ok (wellFormed : volume.WellFormed fun _ => True)
    (done : moveNode now source target volume = .ok () changed) :
    (volume.resolve source = volume.resolve target → changed = volume) ∧
      (volume.resolve source ≠ volume.resolve target →
        Moved now (volume.resolve source) (volume.resolve target) volume changed) := by
  have isThere := (moveNode_ok_iff.mp ⟨changed, done⟩).1
  obtain ⟨node, found⟩ := Option.ne_none_iff_exists'.mp fun missing =>
    isThere (Node.flat_eq_none_iff.mpr missing)
  constructor
  · intro same
    cases done.symm.trans (moveNode_of_eq now found same)
    rfl
  · intro different
    rcases moveNode_cases_of_ne now found different with
      ⟨-, fault, failed⟩ | ⟨movable, changed', done', effect⟩
    · cases done.symm.trans failed
    · cases done.symm.trans done'
      exact moved_of_effect wellFormed movable effect

end Volume

/-- In every state of a session a move succeeds exactly if there is a node to move and it is either
to stay or can be moved. A move to the same place leaves everything as it was, and one to another
place takes the node there with everything below it and leaves nothing behind, and everything else
stays, while the current path is cut back to what is left of it. A move that fails leaves everything
as it was. -/
theorem Event.moveNode_run (opened : Instant) (store : Store) (storageKey home : String)
    (events : List Event) (now : Instant) (source target : String) :
    let volume := run events (Volume.load opened store storageKey home)
    let origin := volume.resolve source
    let destination := volume.resolve target
    ((∃ changed, Volume.moveNode now source target volume = .ok () changed) ↔
      volume.root.flat origin ≠ none ∧
        (origin = destination ∨ volume.root.flat.Movable origin destination)) ∧
    (∀ changed, Volume.moveNode now source target volume = .ok () changed →
      (origin = destination → changed = volume) ∧
      (origin ≠ destination → Volume.Moved now origin destination volume changed)) ∧
    ∀ fault changed, Volume.moveNode now source target volume = .error fault changed →
      changed = volume := by
  intro volume origin destination
  have wellFormed : volume.WellFormed (fun _ => True) :=
    wellFormed_run_load opened store storageKey home events
  refine ⟨Volume.moveNode_ok_iff, fun changed done => Volume.moved_of_ok wellFormed done, ?_⟩
  exact Operation.atomic_perform now (.moveNode source target) volume

/-- The current directory moved onto an empty one. -/
theorem Event.moveNode_run_currentDirectory :
    let volume := run [.operate ⟨0, 0⟩ (.changeDirectory "Documents")]
      (Volume.load ⟨0, 0⟩ (.memory []) "fs" "/home/user")
    let origin := volume.resolve "."
    let destination := volume.resolve "/tmp"
    origin = ["home", "user", "Documents"] ∧ origin = volume.current ∧ destination = ["tmp"] ∧
      volume.root.flat.Movable origin destination ∧
      ∃ changed, Volume.moveNode ⟨60, 0⟩ "." "/tmp" volume = .ok () changed ∧
        Volume.Moved ⟨60, 0⟩ origin destination volume changed := by
  intro volume origin destination
  have isOrigin : origin = ["home", "user", "Documents"] := by decide +kernel
  have isCurrent : origin = volume.current := by decide +kernel
  have isDestination : destination = ["tmp"] := by decide +kernel
  have isThere : (volume.root.flat origin).isSome := by decide +kernel
  have movable : volume.root.flat.Movable origin destination :=
    { originNotRoot := by decide +kernel
      destinationNotRoot := by decide +kernel
      notBelow := by decide +kernel
      notAbove := by decide +kernel
      parent := FlatMap.hasDirectory_flat_iff.mpr (by decide +kernel)
      vacant := FlatMap.vacant_flat_iff.mpr (by decide +kernel) }
  obtain ⟨succeeds, moves, -⟩ := moveNode_run ⟨0, 0⟩ (.memory []) "fs" "/home/user"
    [.operate ⟨0, 0⟩ (.changeDirectory "Documents")] ⟨60, 0⟩ "." "/tmp"
  obtain ⟨changed, done⟩ := succeeds.mpr ⟨Option.isSome_iff_ne_none.mp isThere, Or.inr movable⟩
  have different : origin ≠ destination := fun same => movable.notBelow (same ▸ List.prefix_rfl)
  exact ⟨isOrigin, isCurrent, isDestination, movable, changed, done,
    (moves changed done).2 different⟩

end TreeShell
