import TreeShell.Proofs.Snapshots
import TreeShell.Proofs.Volumes

/-!
# Importing what was imported

Every text that is imported can be written again. A record that is read takes up at least two levels
of the document for every level of its tree but the last, so however terse it was, its tree lies
within the 62 levels that can be read back when everything is written out.
-/

namespace TreeShell

/-! ### Heights of what is read -/

namespace Record

variable {now : Instant}

theorem heightOfEntries_nameEntries (entries : List (String × Node)) :
    Node.heightOfEntries (nameEntries entries) = Node.heightOfEntries entries := by
  induction entries with
  | nil => rfl
  | cons entry rest ih =>
      obtain ⟨key, child⟩ := entry
      rw [nameEntries] at ih ⊢
      rw [List.map_cons, Node.heightOfEntries, ih, Node.height_withAttributes, Node.heightOfEntries]

theorem depth_pos_of_readNode {value : Json} {node : Node}
    (isRead : readNode now value = .ok node) : 0 < value.depth := by
  cases value with
  | array elements => exact Nat.succ_pos _
  | object members => exact Nat.succ_pos _
  | _ => simp [readNode] at isRead

/-- A node is read from a value that is nested more than twice as deep as the node is high, and a
content of entries from one that is nested at least twice as deep as these are. -/
theorem height_of_read (value : Json) :
    (∀ node, readNode now value = .ok node → 2 * node.height + 1 ≤ value.depth) ∧
      ∀ entries, readContent now value = .ok (some (.entries entries)) →
        2 * Node.heightOfEntries entries ≤ value.depth := by
  -- Nodes are read from contents among their parts and contents from nodes among theirs, so neither
  -- half can be proved alone.
  induction value using Json.induct_parts with
  | whole value ih =>
      constructor
      · intro node isRead
        have positive := depth_pos_of_readNode isRead
        obtain ⟨fields, isFrom, isBuilt⟩ := exists_build_of_readNode isRead
        obtain ⟨attributes, -, isFile | isDirectory⟩ := build_cases isBuilt
        · obtain ⟨content, rfl⟩ := isFile
          exact positive
        · obtain ⟨entries, rfl, -, isContent⟩ := isDirectory
          rw [Node.height, heightOfEntries_nameEntries]
          rcases isContent with rfl | isContent
          · exact positive
          · obtain ⟨part, isPart, isEntries⟩ := isFrom.content _ isContent
            have low := (ih part isPart).2 entries isEntries
            have deeper := Json.depth_lt_of_mem_parts isPart
            omega
      · intro entries isRead
        obtain ⟨members, rfl, areEntries⟩ := exists_readEntries_of_readContent isRead
        have low : Node.heightOfEntries entries ≤ (Json.object members).depth / 2 := by
          rw [Node.heightOfEntries_le_iff]
          intro entry isEntry
          obtain ⟨member, isMember, isNode⟩ := exists_member_of_readEntries areEntries entry isEntry
          have isPart : member.2 ∈ (Json.object members).parts := List.mem_map_of_mem isMember
          have childLow := (ih member.2 isPart).1 entry.2 isNode
          have deeper := Json.depth_lt_of_mem_parts isPart
          omega
        omega

end Record

/-- The tree of a snapshot that is read is low enough to be read back. -/
theorem Snapshot.height_of_read {now : Instant} {text : String} {snapshot : Snapshot}
    (isRead : read now text = .ok snapshot) : snapshot.root.height ≤ 62 := by
  obtain ⟨document, isDocument, isPart, isRoot, -⟩ := exists_document_of_read isRead
  have shallow := Json.depth_le_of_read isDocument
  have inside := Json.depth_lt_of_mem_parts isPart
  have low := (Record.height_of_read _).1 _ isRoot
  rw [Json.depthLimit] at shallow
  omega

/-! ### Imports -/

namespace Volume

variable {now : Instant} {volume : Volume}

/-- Volumes whose snapshots bring back their tree and their current path. -/
structure Importable (volume : Volume) : Prop where
  isRoot : IsRoot Instant.IsValid volume.root
  normal : volume.current.IsNormal
  low : volume.root.height ≤ 62
  stands : volume.root.hasDirectory volume.current = true

theorem importable_install (valid : now.IsValid) {text : String} {snapshot : Snapshot}
    (isRead : Snapshot.read now text = .ok snapshot) (volume : Volume) :
    (install snapshot volume).Importable := by
  obtain ⟨tree, isDirectory⟩ := Snapshot.wellFormed_of_read valid
    (fun _ _ => Instant.isValid_of_read) isRead
  have isRoot := isRoot_install tree isDirectory volume
  have normal : (Path.follow [] snapshot.currentPath).IsNormal :=
    Path.isNormal_follow Path.isNormal_nil _
  refine ⟨isRoot, normal.of_front (prefix_surviving _ _), ?_, ?_⟩
  · rw [install, repair_root, Node.height_withAttributes]
    exact Snapshot.height_of_read isRead
  · exact hasDirectory_surviving isRoot.isDirectory _

/-- However a snapshot of such a volume is laid out, importing it puts the tree and the current path
into any volume. -/
theorem Importable.importText_eq (importable : volume.Importable) {layout : Json.Layout}
    (blank : layout.Blank) {taken : Instant} (valid : taken.IsValid) (later : Instant)
    (other : Volume) :
    importText later
        ((Snapshot.document taken volume.root (Path.spell volume.current)).written layout) other =
      .ok ⟨some taken, Path.spell volume.current⟩
        (save later { other with root := volume.root, current := volume.current }) := by
  have isRead : Snapshot.read later
      ((Snapshot.document taken volume.root (Path.spell volume.current)).written layout) =
        .ok ⟨volume.root, Path.spell volume.current, some taken, some Snapshot.formatVersion⟩ :=
    (Snapshot.read_written_eq_ok_iff blank importable.isRoot.wellFormed
      importable.isRoot.isDirectory valid).mpr ⟨importable.low, rfl⟩
  have sameCurrent := (surviving_eq_self_iff importable.isRoot.isDirectory).mpr importable.stands
  rw [importText, isRead]
  dsimp only
  rw [install_spell importable.isRoot importable.normal, repair, sameCurrent]

/-- An import saves the volume that it makes. What is saved and what is exported of that volume can
be imported again, at any time and into any volume, and brings back the tree and the current
path. -/
theorem importText_again (valid : now.IsValid) {text : String} {info : SnapshotInfo}
    {changed : Volume} (imported : importText now text volume = .ok info changed) :
    changed.store = volume.store.after
        (Store.set volume.storageKey (snapshotText now changed.root changed.current)) ∧
      ∀ taken : Instant, taken.IsValid → ∀ again,
        (again = (snapshotText taken changed.root changed.current).get ∨
          again = exportText taken changed) →
        ∀ later other, ∃ info final, importText later again other = .ok info final ∧
          final.root = changed.root ∧ final.current = changed.current := by
  unfold importText at imported
  split at imported
  next => cases imported
  next snapshot isRead =>
    cases imported
    have importable := importable_install valid isRead volume
    refine ⟨rfl, ?_⟩
    rintro taken takenValid again (rfl | rfl) later other
    · have back := importable.importText_eq Json.Layout.blank_compact takenValid later other
      exact ⟨_, _, back, rfl, rfl⟩
    · have back := importable.importText_eq Json.Layout.blank_indented takenValid later other
      exact ⟨_, _, back, rfl, rfl⟩

/-- A root written as a list, with entries under another key, a date in another zone and times left
out, and a current path that leads nowhere. -/
def lenient : List Char :=
  "\x7b\"root\": [\"directory\", \"\", ".toList ++
    "\x7b\"a\": \x7b\"children\": \x7b\x7d, ".toList ++
    "\"name\": \"b\", ".toList ++ "\"type\": \"directory\"\x7d\x7d, ".toList ++
    "null, \"me\", null, ".toList ++ "\"2020-02-29t23:59:60.5+02:00\"], ".toList ++
    "\"currentPath\": \"//a/./gone/far/..\"\x7d".toList

theorem importText_again_lenient :
    let now : Instant := ⟨1700000000, 0⟩
    let volume : Volume := ⟨Node.newRoot now, [], [], "fs", .memory []⟩
    ∃ info changed, importText now (String.ofList lenient) volume = .ok info changed ∧
      changed.store = volume.store.after
        (Store.set volume.storageKey (snapshotText now changed.root changed.current)) ∧
      ∀ taken : Instant, taken.IsValid → ∀ again,
        (again = (snapshotText taken changed.root changed.current).get ∨
          again = exportText taken changed) →
        ∀ later other, ∃ info final, importText later again other = .ok info final ∧
          final.root = changed.root ∧ final.current = changed.current := by
  intro now volume
  have valid : now.IsValid := by decide
  have accepted : (match importText now (String.ofList lenient) volume with
      | .ok _ changed => changed.current == ["a"]
      | .error _ _ => false) = true := by
    -- The characters are handed over as they are, since decoding a text is slow in the kernel.
    rw [importText, Snapshot.read, Json.read, String.toList_ofList]
    decide +kernel
  cases imported : importText now (String.ofList lenient) volume with
  | error fault changed =>
      rw [imported] at accepted
      cases accepted
  | ok info changed => exact ⟨info, changed, rfl, importText_again valid imported⟩

end Volume

end TreeShell
