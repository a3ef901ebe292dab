import Mathlib.Data.List.Basic
import TreeShell.Proofs.Addresses
import TreeShell.Proofs.Quoting
import TreeShell.Proofs.Refinement

/-!
# Finding files

Files are found by walking the tree from a place. A walk passes every node below the place once,
a directory before its entries and the entries in the order of their names, and the paths that are
put together on the way are those under which the nodes are looked up. A file is named by the last
name of its path, so to ask for its name besides its path finds nothing more.
-/

namespace TreeShell

namespace Text

theorem occursIn_iff {part text : List Char} : occursIn part text = true ↔ part <:+: text := by
  induction text with
  | nil => simp [occursIn]
  | cons c rest ih =>
      have starts : (afterFront? part (c :: rest)).isSome = true ↔ part <+: c :: rest := by
        rw [Option.isSome_iff_ne_none, Ne, afterFront?_eq_none_iff, Decidable.not_not]
      rw [occursIn, Bool.or_eq_true, starts, ih, List.infix_cons_iff]

theorem contains_iff {text part : String} :
    contains text part = true ↔ part.toList <:+: text.toList :=
  occursIn_iff

end Text

namespace Path

/-- Where two paths part, the first one goes on with the lower name. -/
def Before (earlier later : Path) : Prop :=
  ∃ front lower higher, lower < higher ∧ front ++ [lower] <+: earlier ∧ front ++ [higher] <+: later

theorem Before.ne {earlier later : Path} (before : Before earlier later) : earlier ≠ later := by
  rintro rfl
  obtain ⟨front, lower, higher, less, goesLower, goesHigher⟩ := before
  have sameLength : (front ++ [lower]).length = (front ++ [higher]).length := by simp
  have isFront := List.prefix_of_prefix_length_le goesLower goesHigher (Nat.le_of_eq sameLength)
  have same : lower = higher := by simpa using isFront.eq_of_length sameLength
  exact String.lt_irrefl higher (same ▸ less)

/-- Every name on a path is a part of its spelling. -/
theorem infix_spell_of_mem {name : String} {path : Path} (member : name ∈ path) :
    name.toList <:+: (spell path).toList := by
  rw [toList_spell]
  apply List.IsInfix.trans _ (List.suffix_cons _ _).isInfix
  induction path with
  | nil => cases member
  | cons first rest ih =>
      cases rest with
      | nil => simp [List.mem_singleton.mp member]
      | cons next more =>
          rw [List.map_cons, List.map_cons, List.intercalate_cons_cons]
          rcases List.mem_cons.mp member with rfl | later
          · rw [List.append_assoc]
            exact (List.prefix_append _ _).isInfix
          · exact (ih later).trans (List.suffix_append _ _).isInfix

end Path

namespace Node

variable {times : Instant → Prop} {root found : Node} {start path : Path}

/-! ### Walks -/

theorem walkEntries_eq_flatMap (start : Path) (entries : List (String × Node)) :
    walkEntries start entries = entries.flatMap fun entry => walk (start ++ [entry.1]) entry.2 := by
  induction entries with
  | nil => simp [walkEntries]
  | cons entry rest ih => simp [walkEntries, ih]

theorem walk_directory (start : Path) (attributes : Attributes) (entries : List (String × Node)) :
    walk start (directory attributes entries) = (start, directory attributes entries) ::
      entries.flatMap fun entry => walk (start ++ [entry.1]) entry.2 := by
  rw [walk, walkEntries_eq_flatMap]

/-- A walk passes the ends of all chains of keys, with the chains as their paths. -/
theorem mem_walk_iff : (path, found) ∈ root.walk start ↔
    ∃ keys, path = start ++ keys ∧ root.Chain keys found := by
  induction root generalizing start with
  | file attributes content =>
      rw [walk, List.mem_singleton, Prod.mk.injEq]
      constructor
      · rintro ⟨rfl, rfl⟩
        exact ⟨[], by simp, .here _⟩
      · rintro ⟨keys, rfl, chain⟩
        cases chain
        simp
  | directory attributes entries ih =>
      rw [walk_directory, List.mem_cons, List.mem_flatMap, Prod.mk.injEq]
      constructor
      · rintro (⟨rfl, rfl⟩ | ⟨entry, isEntry, below⟩)
        · exact ⟨[], by simp, .here _⟩
        · obtain ⟨keys, rfl, chain⟩ := (ih entry isEntry).mp below
          exact ⟨entry.1 :: keys, by simp, .down isEntry chain⟩
      · rintro ⟨keys, rfl, chain⟩
        cases chain with
        | here => simp
        | @down _ _ key child _ keys isEntry chain =>
            refine Or.inr ⟨(key, child), isEntry, (ih _ isEntry).mpr ⟨keys, by simp, chain⟩⟩

theorem prefix_of_mem_walk {place : Path × Node} (passed : place ∈ root.walk start) :
    start <+: place.1 := by
  obtain ⟨keys, isPath, -⟩ := mem_walk_iff.mp passed
  exact ⟨keys, isPath.symm⟩

/-- Of two nodes that are passed one after the other the first is a directory, or its path comes
first where the two part. -/
theorem WellFormed.pairwise_walk (wellFormed : root.WellFormed times) (start : Path) :
    (root.walk start).Pairwise fun earlier later =>
      earlier.2.isDirectory = true ∨ Path.Before earlier.1 later.1 := by
  induction wellFormed generalizing start with
  | file => simp [walk]
  | @directory attributes entries timely ordered named below ih =>
      rw [walk_directory, List.pairwise_cons, List.pairwise_flatMap]
      refine ⟨fun _ _ => Or.inl rfl, fun entry isEntry => ih entry isEntry _, ?_⟩
      apply List.Pairwise.imp _ ordered
      intro entry other less earlier passed later passedLater
      exact Or.inr ⟨start, entry.1, other.1, less, prefix_of_mem_walk passed,
        prefix_of_mem_walk passedLater⟩

/-- The paths of the files at and below a place, in the order in which a walk passes them. -/
def filesFrom (root : Node) (start : Path) : List Path :=
  match root.find? start with
  | none => []
  | some node => ((node.walk start).filter fun place => place.2.isFile).map Prod.fst

theorem WellFormed.mem_filesFrom_iff (wellFormed : root.WellFormed times) :
    path ∈ root.filesFrom start ↔
      start <+: path ∧ ∃ attributes content, root.flat path = some (.file attributes content) := by
  simp only [flat_eq_file_iff]
  cases isStart : root.find? start with
  | none =>
      refine iff_of_false (by simp [filesFrom, isStart]) ?_
      rintro ⟨⟨rest, rfl⟩, attributes, content, isFile⟩
      simp [find?_append, isStart] at isFile
  | some node =>
      have tree := (wellFormed.find? isStart).1
      have below (keys : Path) : root.find? (start ++ keys) = node.find? keys := by
        simp [find?_append, isStart]
      simp only [filesFrom, isStart, List.mem_map, List.mem_filter]
      constructor
      · rintro ⟨⟨path, found⟩, ⟨passed, isFile⟩, rfl⟩
        obtain ⟨keys, rfl, chain⟩ := mem_walk_iff.mp passed
        refine ⟨List.prefix_append _ _, ?_⟩
        cases found with
        | directory => cases isFile
        | file attributes content =>
            exact ⟨attributes, content, (below keys).trans (tree.find?_eq_some_iff.mpr chain)⟩
      · rintro ⟨⟨keys, rfl⟩, attributes, content, isFile⟩
        have chain := tree.find?_eq_some_iff.mp ((below keys).symm.trans isFile)
        exact ⟨(start ++ keys, _), ⟨mem_walk_iff.mpr ⟨keys, rfl, chain⟩, rfl⟩, rfl⟩

theorem WellFormed.pairwise_filesFrom (wellFormed : root.WellFormed times) (start : Path) :
    (root.filesFrom start).Pairwise Path.Before := by
  unfold filesFrom
  split
  next => exact List.Pairwise.nil
  next node isStart =>
    have passes := (wellFormed.find? isStart).1.pairwise_walk start
    rw [List.pairwise_map, List.pairwise_filter]
    apply passes.imp
    intro earlier later known isFile _
    apply known.resolve_left
    cases isPlace : earlier.2 <;> simp_all [isDirectory, Node.isFile]

/-- The name of a file says nothing that its path does not say. -/
theorem WellFormed.infix_spell_of_infix_name (wellFormed : root.WellFormed times)
    (isDirectory : root.isDirectory = true) {attributes : Attributes} {content : String}
    (isFile : root.flat path = some (.file attributes content)) {part : List Char}
    (inName : part <:+: attributes.name.toList) : part <:+: (Path.spell path).toList := by
  rw [flat_eq_file_iff] at isFile
  rcases path.eq_nil_or_concat' with rfl | ⟨parent, name, rfl⟩
  · cases isFile
    cases isDirectory
  · have named : attributes.name = name := wellFormed.name_of_find? isFile
    rw [named] at inName
    exact inName.trans (Path.infix_spell_of_mem (by simp))

end Node

namespace Volume

variable {times : Instant → Prop} {volume : Volume}

/-- The files that are found are those whose path contains the text. -/
theorem WellFormed.findFiles_eq (wellFormed : volume.WellFormed times) (pattern spelling : String) :
    volume.findFiles pattern spelling =
      ((volume.root.filesFrom (volume.resolve spelling)).filter fun path =>
        Text.contains (Path.spell path) pattern).map Path.spell := by
  unfold findFiles Node.filesFrom
  dsimp only
  cases isStart : volume.root.find? (volume.resolve spelling) with
  | none => rfl
  | some node =>
      dsimp only
      rw [List.filter_map, List.filter_filter, List.map_map, ← List.filterMap_eq_map,
        List.filterMap_filter]
      apply List.filterMap_congr
      intro ⟨path, found⟩ passed
      cases found with
      | directory => simp [Node.isFile]
      | file attributes content =>
          obtain ⟨keys, rfl, chain⟩ := Node.mem_walk_iff.mp passed
          have tree := wellFormed.isRoot.wellFormed
          have isFile : volume.root.flat (volume.resolve spelling ++ keys) =
              some (.file attributes content) := by
            rw [Node.flat_append_of_find? isStart, Node.flat_eq_file_iff]
            exact (tree.find? isStart).1.find?_eq_some_iff.mpr chain
          have named : Text.contains attributes.name pattern = true →
              Text.contains (Path.spell (volume.resolve spelling ++ keys)) pattern = true := by
            rw [Text.contains_iff, Text.contains_iff]
            exact tree.infix_spell_of_infix_name wellFormed.isRoot.isDirectory isFile
          by_cases inPath :
              Text.contains (Path.spell (volume.resolve spelling ++ keys)) pattern = true
          · simp [Node.isFile, inPath]
          · have notInName : ¬ Text.contains attributes.name pattern = true :=
              fun inName => inPath (named inName)
            simp [Node.isFile, Node.name, Node.attributes, inPath, notInName]

end Volume

namespace Event

/-- In every state of a session the files that are found from a place are exactly the files at and
below it whose path contains the text, in depth-first order and each of them once. What is reported
is the normal spelling of the path of a file, under which its content can be read. The name of a
file contains nothing that its path does not contain. -/
theorem findFiles_run (opened : Instant) (store : Store) (storageKey home : String)
    (events : List Event) (pattern spelling : String) :
    let volume := run events (Volume.load opened store storageKey home)
    ∃ paths : List Path, volume.findFiles pattern spelling = paths.map Path.spell ∧
      paths.Pairwise Path.Before ∧ (volume.findFiles pattern spelling).Nodup ∧
      (∀ path, path ∈ paths ↔ volume.resolve spelling <+: path ∧
        (∃ attributes content, volume.root.flat path = some (.file attributes content)) ∧
          pattern.toList <:+: (Path.spell path).toList) ∧
      (∀ path ∈ paths, Path.normalize (Path.spell path) = Path.spell path ∧
        ∃ attributes content, volume.root.flat path = some (.file attributes content) ∧
          volume.contentOf (Path.spell path) = .ok content) ∧
      ∀ path attributes content, volume.root.flat path = some (.file attributes content) →
        pattern.toList <:+: attributes.name.toList →
          pattern.toList <:+: (Path.spell path).toList := by
  intro volume
  have wellFormed : volume.WellFormed (fun _ => True) :=
    wellFormed_run_load opened store storageKey home events
  have tree := wellFormed.isRoot.wellFormed
  let paths := (volume.root.filesFrom (volume.resolve spelling)).filter fun path =>
    Text.contains (Path.spell path) pattern
  have found : volume.findFiles pattern spelling = paths.map Path.spell :=
    wellFormed.findFiles_eq pattern spelling
  have inOrder : paths.Pairwise Path.Before :=
    (tree.pairwise_filesFrom _).filter _
  have member : ∀ path, path ∈ paths ↔ volume.resolve spelling <+: path ∧
      (∃ attributes content, volume.root.flat path = some (.file attributes content)) ∧
        pattern.toList <:+: (Path.spell path).toList := by
    intro path
    rw [List.mem_filter, tree.mem_filesFrom_iff, Text.contains_iff, and_assoc]
  have normal : ∀ path ∈ paths, path.IsNormal := by
    intro path isOne
    obtain ⟨-, ⟨attributes, content, isFile⟩, -⟩ := (member path).mp isOne
    exact (tree.find? (Node.flat_eq_file_iff.mp isFile)).2
  refine ⟨paths, found, inOrder, ?_, member, ?_, ?_⟩
  · rw [found, List.Nodup, List.pairwise_map]
    apply inOrder.imp_of_mem
    intro earlier later isEarlier isLater before same
    exact before.ne ((Path.spell_inj (normal _ isEarlier) (normal _ isLater)).mp same)
  · intro path isOne
    obtain ⟨-, ⟨attributes, content, isFile⟩, -⟩ := (member path).mp isOne
    refine ⟨Path.normalize_spell (normal path isOne), attributes, content, isFile, ?_⟩
    rw [Volume.contentOf_eq, Volume.resolve, Path.resolve_spell _ (normal path isOne), isFile]
  · intro path attributes content isFile
    exact tree.infix_spell_of_infix_name wellFormed.isRoot.isDirectory isFile

/-- The text may stand in the path anywhere, across a slash as well. -/
example : (Volume.load ⟨0, 0⟩ (.memory []) "fs" "/home/user").findFiles "s/" "../user" =
    ["/home/user/Documents/example.txt", "/home/user/Documents/notes.md"] := by
  decide +kernel

end Event

end TreeShell
