import TreeShell.Node
import TreeShell.Proofs.OrderedEntries

/-!
# A tree as a flat map

A tree can be looked at as a map from paths to labels: what a place holds, but for the entries of
a directory. A change of the tree at one path is a change of this map at and below that path
and nowhere else, although the tree is rebuilt all the way from the root.
-/

namespace TreeShell

/-- What a place of a tree holds besides entries. -/
inductive Label where
  | directory (attributes : Attributes)
  | file (attributes : Attributes) (content : String)
deriving DecidableEq, Repr

/-- Labels under paths. -/
abbrev FlatMap := Path → Option Label

namespace Node

/-- A property of all files, and of all directories whose entries have it, is one of all nodes. -/
@[elab_as_elim, induction_eliminator]
theorem induct {motive : Node → Prop}
    (file : ∀ attributes content, motive (.file attributes content))
    (directory : ∀ attributes entries, (∀ entry ∈ entries, motive entry.2) →
      motive (.directory attributes entries)) (node : Node) : motive node := by
  refine Node.rec (motive_2 := fun entries => ∀ entry ∈ entries, motive entry.2)
    (motive_3 := fun entry => motive entry.2) file directory ?_ ?_ ?_ node
  · exact fun entry member => absurd member List.not_mem_nil
  · intro entry rest here later other member
    rcases List.mem_cons.mp member with same | inRest
    · exact same ▸ here
    · exact later other inRest
  · exact fun _ _ here => here

/-- What a node holds besides entries. -/
def label : Node → Label
  | file attributes content => .file attributes content
  | directory attributes _ => .directory attributes

/-- The tree as a flat map. -/
def flat (root : Node) : FlatMap := fun path => (root.find? path).map label

/-! ### Looking up -/

@[simp]
theorem find?_nil (node : Node) : node.find? [] = some node := by
  simp [find?]

theorem find?_cons (node : Node) (name : String) (rest : Path) :
    node.find? (name :: rest) = (node.child? name).bind fun child => child.find? rest := by
  simp [find?]

theorem find?_append (node : Node) (front back : Path) :
    node.find? (front ++ back) = (node.find? front).bind fun found => found.find? back := by
  induction front generalizing node with
  | nil => simp
  | cons name rest ih =>
      cases child : node.child? name with
      | none => simp [find?_cons, child]
      | some child' => simp [find?_cons, child, ih]

@[simp]
theorem find?_file (attributes : Attributes) (content name : String) (rest : Path) :
    (file attributes content).find? (name :: rest) = none := by
  simp [find?_cons, child?]

@[simp]
theorem find?_directory (attributes : Attributes) (entries : List (String × Node)) (name : String)
    (rest : Path) : (directory attributes entries).find? (name :: rest) =
      (Entries.get? name entries).bind fun child => child.find? rest := by
  simp [find?_cons, child?]

/-- What lies below a place has a directory there. -/
theorem exists_directory_of_find?_append {root found : Node} {front : Path} {name : String}
    {back : Path} (below : root.find? (front ++ name :: back) = some found) :
    ∃ attributes entries, root.find? front = some (directory attributes entries) := by
  rw [find?_append] at below
  obtain ⟨above, foundAbove, belowAbove⟩ := Option.bind_eq_some_iff.mp below
  cases above with
  | file attributes content => simp at belowAbove
  | directory attributes entries => exact ⟨attributes, entries, foundAbove⟩

@[simp]
theorem flat_nil (root : Node) : root.flat [] = some root.label := by
  simp [flat]

@[simp]
theorem flat_file_cons (attributes : Attributes) (content name : String) (rest : Path) :
    (file attributes content).flat (name :: rest) = none := by
  simp [flat]

theorem flat_directory_cons (attributes : Attributes) (entries : List (String × Node))
    (name : String) (rest : Path) : (directory attributes entries).flat (name :: rest) =
      (Entries.get? name entries).bind fun child => child.flat rest := by
  cases found : Entries.get? name entries <;> simp [flat, found]

theorem flat_append_of_find? {root found : Node} {front : Path}
    (here : root.find? front = some found) (back : Path) :
    root.flat (front ++ back) = found.flat back := by
  simp [flat, find?_append, here]

/-- A path is in the map if and only if there is a node. -/
theorem flat_eq_none_iff {root : Node} {path : Path} :
    root.flat path = none ↔ root.find? path = none := by
  simp [flat]

/-- Where there is nothing, there is nothing below either. -/
theorem flat_append_of_free {root : Node} {path : Path} (free : root.find? path = none)
    (rest : Path) : root.flat (path ++ rest) = none := by
  simp [flat, find?_append, free]

theorem flat_eq_directory_iff {root : Node} {path : Path} {attributes : Attributes} :
    root.flat path = some (.directory attributes) ↔
      ∃ entries, root.find? path = some (directory attributes entries) := by
  cases found : root.find? path with
  | none => simp [flat, found]
  | some node => cases node <;> simp [flat, found, label]

theorem flat_eq_file_iff {root : Node} {path : Path} {attributes : Attributes} {content : String} :
    root.flat path = some (.file attributes content) ↔
      root.find? path = some (file attributes content) := by
  cases found : root.find? path with
  | none => simp [flat, found]
  | some node => cases node <;> simp [flat, found, label]

/-! ### Changing -/

theorem change?_nil (alter : Node → Option Node) (root : Node) :
    change? alter [] root = alter root := by
  simp [change?]

theorem change?_file_cons (alter : Node → Option Node) (name : String) (rest : Path)
    (attributes : Attributes) (content : String) :
    change? alter (name :: rest) (file attributes content) = none := by
  simp [change?, child?]

theorem change?_directory_cons (alter : Node → Option Node) (name : String) (rest : Path)
    (attributes : Attributes) (entries : List (String × Node)) :
    change? alter (name :: rest) (directory attributes entries) =
      (Entries.get? name entries).bind fun child => (change? alter rest child).map fun changed =>
        directory attributes (Entries.put name changed entries) := by
  cases found : Entries.get? name entries with
  | none => simp [change?, child?, found]
  | some child =>
      cases changed : change? alter rest child <;>
        simp [change?, child?, putChild?, found, changed]

/-- What a change at a place below an entry says about the entry. -/
theorem change?_cons_eq_some {alter : Node → Option Node} {name : String} {rest : Path}
    {root changed : Node} (done : change? alter (name :: rest) root = some changed) :
    ∃ attributes entries child altered, root = directory attributes entries ∧
      Entries.get? name entries = some child ∧ change? alter rest child = some altered ∧
      changed = directory attributes (Entries.put name altered entries) := by
  cases root with
  | file attributes content => simp [change?_file_cons] at done
  | directory attributes entries =>
      rw [change?_directory_cons] at done
      obtain ⟨child, found, changedBelow⟩ := Option.bind_eq_some_iff.mp done
      obtain ⟨altered, below, same⟩ := Option.map_eq_some_iff.mp changedBelow
      exact ⟨attributes, entries, child, altered, rfl, found, below, same.symm⟩

/-- A change goes through exactly if there is a node at the path that can be changed. -/
theorem isSome_change?_iff (alter : Node → Option Node) (path : Path) (root : Node) :
    (change? alter path root).isSome ↔ ((root.find? path).bind alter).isSome := by
  induction path generalizing root with
  | nil => simp [change?_nil]
  | cons name rest ih =>
      cases root with
      | file attributes content => simp [change?_file_cons]
      | directory attributes entries =>
          cases found : Entries.get? name entries with
          | none => simp [change?_directory_cons, found]
          | some child => simp [change?_directory_cons, found, ih]

/-- At and below the path the changed tree is the changed node. -/
theorem find?_change?_append {alter : Node → Option Node} {path : Path} {root changed : Node}
    (done : change? alter path root = some changed) :
    ∃ target altered, root.find? path = some target ∧ alter target = some altered ∧
      ∀ rest, changed.find? (path ++ rest) = altered.find? rest := by
  induction path generalizing root changed with
  | nil => exact ⟨root, changed, find?_nil root, by simpa [change?_nil] using done, fun _ => rfl⟩
  | cons name rest ih =>
      obtain ⟨attributes, entries, child, changedChild, rfl, found, below, rfl⟩ :=
        change?_cons_eq_some done
      obtain ⟨target, altered, foundTarget, isAltered, findBelow⟩ := ih below
      refine ⟨target, altered, ?_, isAltered, ?_⟩
      · simpa [found] using foundTarget
      · intro more
        simpa using findBelow more

/-- Elsewhere the map stays as it is. -/
theorem flat_change?_outside {alter : Node → Option Node} {path : Path}
    {root changed : Node} (done : change? alter path root = some changed) {other : Path}
    (outside : ¬ path <+: other) : changed.flat other = root.flat other := by
  induction path generalizing root changed other with
  | nil => exact absurd List.nil_prefix outside
  | cons name rest ih =>
      obtain ⟨attributes, entries, child, changedChild, rfl, found, below, rfl⟩ :=
        change?_cons_eq_some done
      cases other with
      | nil => simp [label]
      | cons first more =>
          simp only [flat_directory_cons, Entries.get?_put]
          split
          next same =>
            subst same
            have outsideBelow : ¬ rest <+: more := by
              intro inside
              exact outside ((List.prefix_cons_inj first).mpr inside)
            simpa [found] using ih below outsideBelow
          next => rfl

/-- What lies beside the path stays with everything below it. -/
theorem find?_change?_beside {alter : Node → Option Node} {path : Path}
    {root changed : Node} (done : change? alter path root = some changed) {other : Path}
    (notBelow : ¬ path <+: other) (notAbove : ¬ other <+: path) :
    changed.find? other = root.find? other := by
  induction path generalizing root changed other with
  | nil => exact absurd List.nil_prefix notBelow
  | cons name rest ih =>
      obtain ⟨attributes, entries, child, changedChild, rfl, found, below, rfl⟩ :=
        change?_cons_eq_some done
      cases other with
      | nil => exact absurd List.nil_prefix notAbove
      | cons first more =>
          simp only [find?_directory, Entries.get?_put]
          split
          next same =>
            subst same
            rw [List.prefix_cons_inj] at notBelow notAbove
            simpa [found] using ih below notBelow notAbove
          next => rfl

/-! ### Putting and removing an entry -/

theorem putChild?_eq_some {name : String} {child node changed : Node}
    (done : putChild? name child node = some changed) :
    ∃ attributes entries, node = directory attributes entries ∧
      changed = directory attributes (Entries.put name child entries) := by
  cases node with
  | file attributes content => cases done
  | directory attributes entries => exact ⟨attributes, entries, rfl, (Option.some.inj done).symm⟩

theorem removeChild?_eq_some {name : String} {node changed : Node}
    (done : removeChild? name node = some changed) :
    ∃ attributes entries child, node = directory attributes entries ∧
      Entries.get? name entries = some child ∧
      changed = directory attributes (Entries.remove name entries) := by
  cases node with
  | file attributes content => cases done
  | directory attributes entries =>
      obtain ⟨child, found, same⟩ := Option.map_eq_some_iff.mp done
      exact ⟨attributes, entries, child, rfl, found, same.symm⟩

theorem replaceContent?_eq_some {now : Instant} {content : String} {node changed : Node}
    (done : replaceContent? now content node = some changed) :
    ∃ attributes old, node = file attributes old ∧
      changed = file { attributes with modified := now } content := by
  cases node with
  | file attributes old => exact ⟨attributes, old, rfl, (Option.some.inj done).symm⟩
  | directory attributes entries => cases done

/-- A node can be put into a directory that there is, and nowhere else. -/
theorem isSome_insert?_iff {root child : Node} {parent : Path} {name : String} :
    (root.insert? parent name child).isSome ↔
      ∃ attributes, root.flat parent = some (.directory attributes) := by
  rw [insert?, isSome_change?_iff]
  simp only [flat_eq_directory_iff]
  cases found : root.find? parent with
  | none => simp
  | some node => cases node <;> simp [putChild?]

/-- An entry can be removed if there is one. -/
theorem isSome_erase?_iff {root : Node} {parent : Path} {name : String} :
    (root.erase? parent name).isSome ↔ (root.flat (parent ++ [name])).isSome := by
  rw [erase?, isSome_change?_iff, flat, find?_append]
  cases found : root.find? parent with
  | none => simp
  | some node => cases node <;> simp [removeChild?]

/-- A node that is put into a directory is found there with everything below it. -/
theorem find?_insert?_append {root child changed : Node} {parent : Path} {name : String}
    (done : root.insert? parent name child = some changed) (rest : Path) :
    changed.find? (parent ++ [name] ++ rest) = child.find? rest := by
  obtain ⟨target, altered, -, isAltered, findBelow⟩ := find?_change?_append done
  obtain ⟨attributes, entries, rfl, rfl⟩ := putChild?_eq_some isAltered
  rw [List.append_assoc, List.singleton_append, findBelow]
  simp

/-- What lies beside an entry that is taken away stays with everything below it. -/
theorem find?_erase?_beside {root changed : Node} {parent : Path} {name : String}
    (done : root.erase? parent name = some changed) {other : Path}
    (notBelow : ¬ parent ++ [name] <+: other) (notAbove : ¬ other <+: parent ++ [name]) :
    changed.find? other = root.find? other := by
  by_cases inParent : parent <+: other
  · obtain ⟨rest, rfl⟩ := inParent
    obtain ⟨target, altered, found, isAltered, findBelow⟩ := find?_change?_append done
    obtain ⟨attributes, entries, child, rfl, -, rfl⟩ := removeChild?_eq_some isAltered
    rw [findBelow, find?_append, found, Option.bind_some]
    cases rest with
    | nil => exact absurd (by simp) notAbove
    | cons first more =>
        have different : first ≠ name := fun same => notBelow ⟨more, by simp [same]⟩
        simp [Entries.get?_remove_of_ne different]
  · exact find?_change?_beside done inParent
      fun above => notAbove (above.trans (List.prefix_append _ _))

end Node

namespace FlatMap

/-- The map with the whole map of another tree at a path. -/
def graft (path : Path) (inner map : FlatMap) : FlatMap := fun other =>
  if path <+: other then inner (other.drop path.length) else map other

/-- The map without what is at and below a path. -/
def prune (path : Path) (map : FlatMap) : FlatMap := fun other =>
  if path <+: other then none else map other

/-- The map with a label at a path and nothing below it. -/
def plant (path : Path) (label : Label) (map : FlatMap) : FlatMap := fun other =>
  if other = path then some label else map.prune path other

/-- The map with a label at a path and everything else as it was. -/
def set (path : Path) (label : Label) (map : FlatMap) : FlatMap := fun other =>
  if other = path then some label else map other

theorem plant_self (path : Path) (label : Label) (map : FlatMap) :
    map.plant path label path = some label :=
  if_pos rfl

theorem plant_outside {path other : Path} (outside : ¬ path <+: other) (label : Label)
    (map : FlatMap) : map.plant path label other = map other := by
  have different : other ≠ path := fun same => outside (same ▸ List.prefix_rfl)
  simp [plant, prune, different, outside]

theorem plant_below {path other : Path} (inside : path <+: other) (different : other ≠ path)
    (label : Label) (map : FlatMap) : map.plant path label other = none := by
  simp [plant, prune, different, inside]

/-- Where nothing was there is nothing to take away first. -/
theorem plant_eq_set {path : Path} {map : FlatMap} (free : ∀ rest, map (path ++ rest) = none)
    (label : Label) : map.plant path label = map.set path label := by
  funext other
  unfold plant set prune
  split
  · rfl
  · split
    next inside =>
      obtain ⟨rest, rfl⟩ := inside
      exact (free rest).symm
    next => rfl

@[simp]
theorem graft_append (path rest : Path) (inner map : FlatMap) :
    graft path inner map (path ++ rest) = inner rest := by
  simp [graft]

theorem graft_outside {path other : Path} (outside : ¬ path <+: other)
    (inner map : FlatMap) : graft path inner map other = map other :=
  if_neg outside

/-- A map that is given below a path and elsewhere is a graft. -/
theorem eq_graft {path : Path} {inner map changed : FlatMap}
    (inside : ∀ rest, changed (path ++ rest) = inner rest)
    (outside : ∀ other, ¬ path <+: other → changed other = map other) :
    changed = graft path inner map := by
  funext other
  by_cases isInside : path <+: other
  · obtain ⟨rest, rfl⟩ := isInside
    rw [inside, graft_append]
  · rw [outside other isInside, graft_outside isInside]

theorem graft_eq_plant {path : Path} {inner map : FlatMap} {label : Label}
    (here : inner [] = some label) (below : ∀ name rest, inner (name :: rest) = none) :
    graft path inner map = plant path label map := by
  symm
  apply eq_graft
  · intro rest
    cases rest with
    | nil => simp [plant, here]
    | cons name rest => simp [plant, prune, below]
  · intro other outside
    have different : other ≠ path := fun same => outside (same ▸ List.prefix_rfl)
    simp [plant, prune, different, outside]

theorem graft_eq_prune {path : Path} {inner map : FlatMap} (empty : ∀ rest, inner rest = none) :
    graft path inner map = prune path map := by
  symm
  apply eq_graft
  · intro rest
    simp [prune, empty]
  · intro other outside
    simp [prune, outside]

end FlatMap

namespace Node

/-- A change of one entry of the directory at a path, in terms of the map. -/
theorem flat_change?_entry {alter : Node → Option Node} {parent : Path} {name : String}
    {root changed : Node} (done : change? alter parent root = some changed)
    {attributes : Attributes} {before after : List (String × Node)}
    (found : root.find? parent = some (directory attributes before))
    (altered : alter (directory attributes before) = some (directory attributes after))
    (others : ∀ other, other ≠ name → Entries.get? other after = Entries.get? other before) :
    changed.flat = FlatMap.graft (parent ++ [name])
      (fun rest => (directory attributes after).flat (name :: rest)) root.flat := by
  obtain ⟨target, altered', foundTarget, isAltered, findBelow⟩ := find?_change?_append done
  cases found.symm.trans foundTarget
  cases altered.symm.trans isAltered
  have flatBelow : ∀ rest,
      changed.flat (parent ++ rest) = (directory attributes after).flat rest := by
    intro rest
    simp [flat, findBelow]
  apply FlatMap.eq_graft
  · intro rest
    rw [List.append_assoc]
    exact flatBelow (name :: rest)
  · intro other outside
    by_cases inParent : parent <+: other
    · obtain ⟨rest, rfl⟩ := inParent
      rw [flatBelow, flat_append_of_find? found]
      cases rest with
      | nil => simp [label]
      | cons first more =>
          have different : first ≠ name := by
            intro same
            exact outside ⟨more, by simp [same]⟩
          simp [flat_directory_cons, others first different]
    · exact flat_change?_outside done inParent

/-- Putting a node grafts its map into the map of the tree. -/
theorem flat_insert? {root changed child : Node} {parent : Path} {name : String}
    (done : root.insert? parent name child = some changed) :
    changed.flat = FlatMap.graft (parent ++ [name]) child.flat root.flat := by
  obtain ⟨target, altered, found, isAltered, -⟩ := find?_change?_append done
  obtain ⟨attributes, entries, rfl, rfl⟩ := putChild?_eq_some isAltered
  have grafted := flat_change?_entry done found isAltered fun other different =>
    Entries.get?_put_of_ne different child entries
  rw [grafted]
  congr 1
  funext rest
  simp [flat_directory_cons]

/-- Removing an entry prunes the map of a tree whose directories are in order. -/
theorem flat_erase? {root changed : Node} {parent : Path} {name : String}
    (done : root.erase? parent name = some changed)
    (ordered : ∀ attributes entries, root.find? parent = some (directory attributes entries) →
      Entries.Ordered entries) :
    changed.flat = FlatMap.prune (parent ++ [name]) root.flat := by
  obtain ⟨target, altered, found, isAltered, -⟩ := find?_change?_append done
  obtain ⟨attributes, entries, child, rfl, -, rfl⟩ := removeChild?_eq_some isAltered
  rw [flat_change?_entry done found isAltered fun other different =>
    Entries.get?_remove_of_ne different entries]
  apply FlatMap.graft_eq_prune
  intro rest
  simp [flat_directory_cons, Entries.get?_remove_self name (ordered _ _ found)]

/-- Replacing the content of a file changes one label. -/
theorem flat_replaceContent? {root changed : Node} {path : Path} {now : Instant}
    {attributes : Attributes} {old content : String}
    (done : root.change? (replaceContent? now content) path = some changed)
    (found : root.flat path = some (.file attributes old)) :
    changed.flat = root.flat.set path (.file { attributes with modified := now } content) := by
  funext other
  unfold FlatMap.set
  obtain ⟨target, altered, foundTarget, isAltered, findBelow⟩ := find?_change?_append done
  rw [flat_eq_file_iff] at found
  cases found.symm.trans foundTarget
  cases isAltered
  by_cases inside : path <+: other
  · obtain ⟨rest, rfl⟩ := inside
    rw [flat_append_of_find? found, flat, findBelow]
    cases rest with
    | nil => simp [label]
    | cons name rest => simp
  · have different : other ≠ path := fun same => inside (same ▸ List.prefix_rfl)
    rw [if_neg different, flat_change?_outside done inside]

theorem graft_newFile (path : Path) (map : FlatMap) (now : Instant) (name content : String) :
    FlatMap.graft path (newFile now name content).flat map =
      map.plant path (newFile now name content).label :=
  FlatMap.graft_eq_plant (flat_nil _) fun first rest => flat_file_cons _ _ first rest

theorem graft_newDirectory (path : Path) (map : FlatMap) (now : Instant) (name : String) :
    FlatMap.graft path (newDirectory now name).flat map =
      map.plant path (newDirectory now name).label := by
  apply FlatMap.graft_eq_plant (flat_nil _)
  intro first rest
  simp [newDirectory, flat_directory_cons, Entries.get?]

end Node

end TreeShell
