import TreeShell.Proofs.FlatMap
import TreeShell.Proofs.Paths

/-!
# Well-formed trees

In a well-formed tree the entries of every directory are in order, every key can name an entry,
and every entry records the key as its name. What times nodes may have been modified at is left
open: it is a parameter, kept by everything that works at such times.
-/

namespace TreeShell.Node

/-- Trees whose directories are in order and agree with the names of their entries, and whose
nodes were modified at certain times. -/
inductive WellFormed (times : Instant → Prop) : Node → Prop where
  | file {attributes : Attributes} {content : String} (timely : times attributes.modified) :
      WellFormed times (.file attributes content)
  | directory {attributes : Attributes} {entries : List (String × Node)}
      (timely : times attributes.modified) (ordered : Entries.Ordered entries)
      (named : ∀ entry ∈ entries, Path.IsName entry.1 ∧ entry.2.name = entry.1)
      (below : ∀ entry ∈ entries, WellFormed times entry.2) :
      WellFormed times (.directory attributes entries)

variable {times : Instant → Prop} {now : Instant}

theorem WellFormed.timely {node : Node} (wellFormed : WellFormed times node) :
    times node.attributes.modified := by
  cases wellFormed with
  | file timely => exact timely
  | directory timely => exact timely

theorem WellFormed.ordered {attributes : Attributes} {entries : List (String × Node)}
    (wellFormed : WellFormed times (.directory attributes entries)) : Entries.Ordered entries := by
  cases wellFormed with
  | directory _ ordered => exact ordered

/-! ### Looking up -/

theorem WellFormed.entry {attributes : Attributes} {entries : List (String × Node)}
    (wellFormed : WellFormed times (.directory attributes entries)) {name : String} {child : Node}
    (found : Entries.get? name entries = some child) :
    WellFormed times child ∧ Path.IsName name ∧ child.name = name := by
  have member := Entries.mem_of_get? found
  cases wellFormed with
  | directory _ _ named below => exact ⟨below _ member, named _ member⟩

/-- What is found in a well-formed tree is well-formed, and its path consists of names. -/
theorem WellFormed.find? {root : Node} (wellFormed : WellFormed times root) {path : Path}
    {found : Node} (isFound : root.find? path = some found) :
    WellFormed times found ∧ Path.IsNormal path := by
  induction path generalizing root with
  | nil =>
      rw [find?_nil] at isFound
      exact ⟨Option.some.inj isFound ▸ wellFormed, Path.isNormal_nil⟩
  | cons name rest ih =>
      cases root with
      | file attributes content => simp at isFound
      | directory attributes entries =>
          rw [find?_directory] at isFound
          obtain ⟨child, isChild, below⟩ := Option.bind_eq_some_iff.mp isFound
          obtain ⟨childWellFormed, isName, -⟩ := wellFormed.entry isChild
          obtain ⟨foundWellFormed, restNormal⟩ := ih childWellFormed below
          refine ⟨foundWellFormed, ?_⟩
          intro other member
          rcases List.mem_cons.mp member with same | later
          · exact same ▸ isName
          · exact restNormal other later

/-- Every node below the root of a well-formed tree records the last name of its path. -/
theorem WellFormed.name_of_find? {root found : Node} (wellFormed : WellFormed times root)
    {parent : Path} {name : String} (isFound : root.find? (parent ++ [name]) = some found) :
    found.name = name := by
  rw [find?_append] at isFound
  obtain ⟨above, foundAbove, below⟩ := Option.bind_eq_some_iff.mp isFound
  have aboveWellFormed := (wellFormed.find? foundAbove).1
  cases above with
  | file attributes content => simp at below
  | directory attributes entries =>
      obtain ⟨child, isChild, same⟩ : ∃ child, Entries.get? name entries = some child ∧
          child = found := by
        simpa using below
      exact same ▸ (aboveWellFormed.entry isChild).2.2

theorem WellFormed.ordered_of_find? {root : Node} (wellFormed : WellFormed times root)
    {path : Path} (attributes : Attributes) (entries : List (String × Node))
    (isFound : root.find? path = some (Node.directory attributes entries)) :
    Entries.Ordered entries :=
  (wellFormed.find? isFound).1.ordered

/-! ### New nodes -/

theorem wellFormed_newFile (timely : times now) (name content : String) :
    WellFormed times (newFile now name content) :=
  .file timely

theorem wellFormed_emptyDirectory {attributes : Attributes} (timely : times attributes.modified) :
    WellFormed times (directory attributes []) :=
  .directory timely Entries.ordered_nil (fun _ member => absurd member List.not_mem_nil)
    fun _ member => absurd member List.not_mem_nil

theorem wellFormed_newDirectory (timely : times now) (name : String) :
    WellFormed times (newDirectory now name) :=
  wellFormed_emptyDirectory timely

theorem wellFormed_newRoot (timely : times now) : WellFormed times (newRoot now) :=
  wellFormed_emptyDirectory timely

theorem WellFormed.withAttributes {node : Node} (wellFormed : WellFormed times node)
    {attributes : Attributes} (timely : times attributes.modified) :
    WellFormed times (node.withAttributes attributes) := by
  cases wellFormed with
  | file => exact .file timely
  | directory _ ordered named below => exact .directory timely ordered named below

@[simp]
theorem attributes_withAttributes (node : Node) (attributes : Attributes) :
    (node.withAttributes attributes).attributes = attributes := by
  cases node <;> rfl

@[simp]
theorem isDirectory_withAttributes (node : Node) (attributes : Attributes) :
    (node.withAttributes attributes).isDirectory = node.isDirectory := by
  cases node <;> rfl

/-- Other attributes change nothing below a node. -/
theorem find?_withAttributes (node : Node) (attributes : Attributes) {path : Path}
    (below : path ≠ []) : (node.withAttributes attributes).find? path = node.find? path := by
  cases path with
  | nil => exact absurd rfl below
  | cons name rest => cases node <;> simp [Node.withAttributes]

/-! ### Changing -/

theorem WellFormed.put {attributes : Attributes} {entries : List (String × Node)}
    (wellFormed : WellFormed times (.directory attributes entries)) {name : String} {child : Node}
    (isName : Path.IsName name) (childWellFormed : WellFormed times child)
    (childName : child.name = name) :
    WellFormed times (.directory attributes (Entries.put name child entries)) := by
  cases wellFormed with
  | directory timely ordered named below =>
      refine .directory timely (Entries.ordered_put name child ordered) ?_ ?_
      · intro entry member
        rcases Entries.mem_put member with rfl | old
        · exact ⟨isName, childName⟩
        · exact named entry old
      · intro entry member
        rcases Entries.mem_put member with rfl | old
        · exact childWellFormed
        · exact below entry old

theorem WellFormed.remove {attributes : Attributes} {entries : List (String × Node)}
    (wellFormed : WellFormed times (.directory attributes entries)) (name : String) :
    WellFormed times (.directory attributes (Entries.remove name entries)) := by
  have sublist := Entries.remove_sublist name entries
  cases wellFormed with
  | directory timely ordered named below =>
      exact .directory timely (Entries.ordered_remove name ordered)
        (fun entry member => named entry (sublist.subset member))
        fun entry member => below entry (sublist.subset member)

/-- A change that keeps one node well-formed and its name keeps the tree so. -/
theorem WellFormed.change? {alter : Node → Option Node} {path : Path} {root changed : Node}
    (keeps : ∀ target altered, WellFormed times target → alter target = some altered →
      WellFormed times altered ∧ altered.name = target.name)
    (wellFormed : WellFormed times root) (done : root.change? alter path = some changed) :
    WellFormed times changed ∧ changed.name = root.name := by
  induction path generalizing root changed with
  | nil => exact keeps root changed wellFormed (by simpa [change?_nil] using done)
  | cons name rest ih =>
      obtain ⟨attributes, entries, child, altered, rfl, found, below, rfl⟩ :=
        change?_cons_eq_some done
      obtain ⟨childWellFormed, isName, childName⟩ := wellFormed.entry found
      obtain ⟨alteredWellFormed, sameName⟩ := ih childWellFormed below
      exact ⟨wellFormed.put isName alteredWellFormed (sameName.trans childName), rfl⟩

theorem WellFormed.insert? {root changed child : Node} {parent : Path} {name : String}
    (wellFormed : WellFormed times root) (isName : Path.IsName name)
    (childWellFormed : WellFormed times child) (childName : child.name = name)
    (done : root.insert? parent name child = some changed) : WellFormed times changed := by
  refine (wellFormed.change? ?_ done).1
  intro target altered targetWellFormed isAltered
  obtain ⟨attributes, entries, rfl, rfl⟩ := putChild?_eq_some isAltered
  exact ⟨targetWellFormed.put isName childWellFormed childName, rfl⟩

theorem WellFormed.erase? {root changed : Node} {parent : Path} {name : String}
    (wellFormed : WellFormed times root) (done : root.erase? parent name = some changed) :
    WellFormed times changed := by
  refine (wellFormed.change? ?_ done).1
  intro target altered targetWellFormed isAltered
  obtain ⟨attributes, entries, child, rfl, -, rfl⟩ := removeChild?_eq_some isAltered
  exact ⟨targetWellFormed.remove name, rfl⟩

theorem WellFormed.replaceContent? {root changed : Node} {path : Path} {content : String}
    (wellFormed : WellFormed times root) (timely : times now)
    (done : root.change? (replaceContent? now content) path = some changed) :
    WellFormed times changed := by
  refine (wellFormed.change? ?_ done).1
  intro target altered targetWellFormed isAltered
  obtain ⟨attributes, old, rfl, rfl⟩ := replaceContent?_eq_some isAltered
  exact ⟨.file timely, rfl⟩

end TreeShell.Node
