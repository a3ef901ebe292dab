import TreeShell.Proofs.Session

/-!
# Addresses

Every chain of keys from the root of a volume down to a node is the address of that node: spelled
out it is looked up as the node, and no other chain is spelled so. This rests on what the entries of
the tree look like, wherever they come from: their keys can name entries, no key occurs twice in a
directory, and every node is named by its key.
-/

namespace TreeShell

namespace Node

/-- A chain of keys leads from a node down to another one. -/
inductive Chain : Node → Path → Node → Prop where
  | here (node : Node) : Chain node [] node
  | down {attributes : Attributes} {entries : List (String × Node)} {key : String}
      {child found : Node} {keys : Path} (isEntry : (key, child) ∈ entries)
      (chain : Chain child keys found) : Chain (.directory attributes entries) (key :: keys) found

variable {times : Instant → Prop} {root found : Node} {keys : Path}

theorem chain_of_find? (isFound : root.find? keys = some found) : Chain root keys found := by
  induction keys generalizing root with
  | nil =>
      cases isFound
      exact .here _
  | cons key keys ih =>
      cases root with
      | file => simp at isFound
      | directory attributes entries =>
          rw [find?_directory] at isFound
          obtain ⟨child, isChild, below⟩ := Option.bind_eq_some_iff.mp isFound
          exact .down (Entries.mem_of_get? isChild) (ih below)

/-- In a well-formed tree looking up finds the ends of chains and nothing else. -/
theorem WellFormed.find?_eq_some_iff (wellFormed : root.WellFormed times) :
    root.find? keys = some found ↔ Chain root keys found := by
  constructor
  · exact chain_of_find?
  · intro chain
    induction chain with
    | here node => exact find?_nil node
    | @down attributes entries key child found keys isEntry chain ih =>
        have isChild := Entries.get?_of_mem wellFormed.ordered isEntry
        rw [find?_directory, isChild]
        exact ih (wellFormed.entry isChild).1

end Node

namespace Path

/-- Paths of names that are spelled alike are the same. -/
theorem spell_inj {first second : Path} (normalFirst : first.IsNormal)
    (normalSecond : second.IsNormal) : spell first = spell second ↔ first = second := by
  constructor
  · intro same
    rw [← resolve_spell [] normalFirst, same, resolve_spell [] normalSecond]
  · exact congrArg spell

end Path

namespace Volume

/-- Volumes whose nodes have addresses. -/
structure Addresses (volume : Volume) : Prop where
  root : volume.root.isDirectory = true ∧ volume.root.name = "/"
  entries : ∀ keys attributes entries, volume.root.Chain keys (.directory attributes entries) →
    (entries.map Prod.fst).Nodup ∧ ∀ key child, (key, child) ∈ entries →
      key ≠ "" ∧ key ≠ "." ∧ key ≠ ".." ∧ '/' ∉ key.toList ∧ child.name = key
  node? : ∀ keys node, volume.root.Chain keys node →
    volume.node? (Path.spell keys) = some node
  normalize : ∀ keys node, volume.root.Chain keys node →
    Path.normalize (Path.spell keys) = Path.spell keys
  distinct : ∀ first second node other, volume.root.Chain first node →
    volume.root.Chain second other → first ≠ second → Path.spell first ≠ Path.spell second
  chain : ∀ spelling node, volume.node? spelling = some node →
    volume.root.Chain (volume.resolve spelling) node

theorem WellFormed.addresses {times : Instant → Prop} {volume : Volume}
    (wellFormed : volume.WellFormed times) : volume.Addresses := by
  have tree := wellFormed.isRoot.wellFormed
  have isFound : ∀ {keys node}, volume.root.Chain keys node →
      volume.root.find? keys = some node := tree.find?_eq_some_iff.mpr
  have normal : ∀ {keys node}, volume.root.Chain keys node → Path.IsNormal keys :=
    fun chain => (tree.find? (isFound chain)).2
  refine
    { root := ⟨wellFormed.isRoot.isDirectory, wellFormed.isRoot.name⟩
      entries := ?_, node? := ?_, distinct := ?_
      normalize := fun keys node chain => Path.normalize_spell (normal chain)
      chain := fun spelling node found => Node.chain_of_find? found }
  · intro keys attributes entries chain
    have directory := (tree.find? (isFound chain)).1
    constructor
    · refine List.Pairwise.imp ?_ (Entries.ordered_iff_names.mp directory.ordered)
      intro name later less same
      exact String.lt_irrefl name (same ▸ less)
    · intro key child member
      have isEntry := Entries.get?_of_mem directory.ordered member
      obtain ⟨-, ⟨notEmpty, notDot, notUp, noSlash⟩, named⟩ := directory.entry isEntry
      exact ⟨notEmpty, notDot, notUp, noSlash, named⟩
  · intro keys node chain
    rw [Volume.node?, resolve, Path.resolve_spell _ (normal chain)]
    exact isFound chain
  · intro first second node other chainFirst chainSecond different same
    exact different ((Path.spell_inj (normal chainFirst) (normal chainSecond)).mp same)

end Volume

namespace Event

/-- In every state of a session the root is a directory named `/`, the keys of every directory are
names of their nodes, each of them once, and every chain of keys is the address of the node at its
end. -/
theorem addresses_run (opened : Instant) (store : Store) (storageKey home : String)
    (events : List Event) :
    (run events (Volume.load opened store storageKey home)).Addresses := by
  have atStart : (Volume.load opened store storageKey home).WellFormed fun _ => True :=
    Volume.wellFormed_load (fun _ _ _ => trivial) trivial store storageKey home
  have atEnd : (run events (Volume.load opened store storageKey home)).WellFormed fun _ => True :=
    wellFormed_run (fun _ _ _ => trivial) atStart fun _ _ => trivial
  exact atEnd.addresses

end Event

end TreeShell
