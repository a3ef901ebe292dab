import TreeShell.Proofs.Instants
import TreeShell.Proofs.Json.RoundTrip
import TreeShell.Proofs.Records

/-!
# Snapshots that are read back

The record of a well-formed node is read as that node. A level of the tree takes two levels of the
document, one for the record and one for its entries, and the document itself takes one more. So a
snapshot is read back if and only if no node lies more than 62 levels below the root.
-/

namespace TreeShell

namespace Node

/-! ### Height -/

mutual

/-- How many levels there are below a node. -/
def height : Node → Nat
  | file .. => 0
  | directory _ entries => heightOfEntries entries

/-- How many levels some entries make up. -/
def heightOfEntries : List (String × Node) → Nat
  | [] => 0
  | (_, child) :: rest => max (height child + 1) (heightOfEntries rest)

end

@[simp]
theorem height_withAttributes (attributes : Attributes) (node : Node) :
    (node.withAttributes attributes).height = node.height := by
  cases node <;> rfl

theorem heightOfEntries_le_iff {entries : List (String × Node)} {levels : Nat} :
    heightOfEntries entries ≤ levels ↔ ∀ entry ∈ entries, entry.2.height < levels := by
  induction entries with
  | nil => simp [heightOfEntries]
  | cons entry rest ih =>
      obtain ⟨name, child⟩ := entry
      rw [heightOfEntries, Nat.max_le, ih, List.forall_mem_cons, Nat.add_one_le_iff]

/-- The height is the length of the longest path that leads to a node. -/
theorem height_le_iff {times : Instant → Prop} {root : Node} (wellFormed : root.WellFormed times)
    {levels : Nat} : root.height ≤ levels ↔
      ∀ path found, root.find? path = some found → path.length ≤ levels := by
  -- The levels go down with the tree, so they are not fixed in the induction.
  induction wellFormed generalizing levels with
  | file timely =>
      constructor
      · intro _ path found isFound
        cases path with
        | nil => exact Nat.zero_le _
        | cons name rest => simp at isFound
      · exact fun _ => by simp [height]
  | @directory attributes entries timely ordered named below ih =>
      rw [height, heightOfEntries_le_iff]
      constructor
      · intro small path found isFound
        cases path with
        | nil => exact Nat.zero_le _
        | cons name rest =>
            rw [find?_directory] at isFound
            obtain ⟨child, isChild, isBelow⟩ := Option.bind_eq_some_iff.mp isFound
            have member := Entries.mem_of_get? isChild
            have lower : child.height < levels := small _ member
            have restShort := (ih _ member).mp (Nat.le_sub_one_of_lt lower) rest found isBelow
            rw [List.length_cons]
            omega
      · intro short entry member
        obtain ⟨name, child⟩ := entry
        have isChild := Entries.get?_of_mem ordered member
        change child.height < levels
        have belowShort : ∀ path found, child.find? path = some found →
            path.length + 1 ≤ levels := by
          intro path found isFound
          refine short (name :: path) found ?_
          rw [find?_directory, isChild]
          exact isFound
        have positive := belowShort [] child (find?_nil child)
        have childSmall : child.height ≤ levels - 1 := (ih _ member).mpr fun path found isFound =>
          Nat.le_sub_one_of_lt (belowShort path found isFound)
        rw [List.length_nil] at positive
        omega

end Node

namespace Json

theorem arrangedMembers_eq_map (members : List (String × Json)) :
    arrangedMembers members = members.map fun member => (member.1, member.2.arranged) := by
  induction members with
  | nil => rfl
  | cons member others ih =>
      obtain ⟨key, value⟩ := member
      rw [arrangedMembers, ih, List.map_cons]

end Json

namespace Record

open Json (arranged arrangedMembers depthOfMembers)

/-! ### Writing -/

theorem ofEntries_eq_map (entries : List (String × Node)) :
    ofEntries entries = entries.map fun entry => (entry.1, ofNode entry.2) := by
  induction entries with
  | nil => rfl
  | cons entry rest ih =>
      obtain ⟨name, child⟩ := entry
      rw [ofEntries, ih, List.map_cons]

theorem plain_fields (kind : String) (attributes : Attributes) {content : Json}
    (plain : content.Plain) {size : Nat} (fits : size < 1 <<< 64) :
    (fields kind attributes content size).Plain := by
  refine .object ?_
  simp only [List.forall_mem_cons]
  exact ⟨.string _, .string _, plain, .string _, .string _, .string _, .number fits, .string _,
    fun _ member => absurd member List.not_mem_nil⟩

theorem plain_ofNode (node : Node) : (ofNode node).Plain := by
  induction node with
  | file attributes content =>
      rw [ofNode]
      exact plain_fields _ _ (.string content) (Nat.mod_lt _ (by decide))
  | directory attributes entries ih =>
      rw [ofNode]
      refine plain_fields _ _ (.object ?_) (by decide : Node.directorySize < 1 <<< 64)
      rw [ofEntries_eq_map]
      intro member isMember
      obtain ⟨entry, isEntry, rfl⟩ := List.mem_map.mp isMember
      exact ih entry isEntry

theorem depth_fields (kind : String) (attributes : Attributes) (content : Json) (size : Nat) :
    (fields kind attributes content size).depth = content.depth + 1 := by
  simp [fields, Json.depth, depthOfMembers]

/-- A level of the tree is two levels of the document, but for the last. -/
theorem depth_ofNode (node : Node) : 2 * node.height + 1 ≤ (ofNode node).depth ∧
    (ofNode node).depth ≤ 2 * node.height + 2 := by
  induction node with
  | file attributes content =>
      rw [ofNode, depth_fields, Json.depth, Node.height]
      omega
  | directory attributes entries ih =>
      have ofEntriesDepth :
          2 * Node.heightOfEntries entries ≤ depthOfMembers (ofEntries entries) + 1 ∧
          depthOfMembers (ofEntries entries) ≤ 2 * Node.heightOfEntries entries := by
        induction entries with
        | nil => exact ⟨Nat.zero_le _, Nat.zero_le _⟩
        | cons entry rest later =>
            obtain ⟨name, child⟩ := entry
            have here : 2 * child.height + 1 ≤ (ofNode child).depth ∧
                (ofNode child).depth ≤ 2 * child.height + 2 := ih _ List.mem_cons_self
            have others := later fun other member => ih other (List.mem_cons_of_mem _ member)
            rw [Node.heightOfEntries, ofEntries, depthOfMembers]
            omega
      rw [ofNode, depth_fields, Json.depth, Node.height]
      omega

/-! ### Reading what was written -/

variable {now : Instant}

/-- The fields of a record are read in the order of their keys, with the content first. -/
theorem readNode_fields {kind : String} {attributes : Attributes} {content : Json} {size : Nat}
    (valid : attributes.modified.IsValid) {found : Option Content}
    (isRead : readContent now content.arranged = .ok found) :
    readNode now (fields kind attributes content size).arranged =
      build now
        { kind := some kind
          name := some attributes.name
          content := some found
          permissions := some attributes.permissions
          owner := some attributes.owner
          group := some attributes.group
          modified := some attributes.modified } := by
  have sorted : (fields kind attributes content size).arranged = .object
      [("content", content.arranged), ("group", .string attributes.group),
        ("modified", .string attributes.modified.text), ("name", .string attributes.name),
        ("owner", .string attributes.owner), ("permissions", .string attributes.permissions),
        ("size", .number (.natural size)), ("type", .string kind)] := by
    simp only [fields, arranged, arrangedMembers, Entries.ofList, List.foldl_cons, List.foldl_nil]
    rfl
  rw [sorted]
  simp [readNode, readMembers, addField, isRead, readText, readOptionalText, readOptionalInstant,
    Instant.read_text valid, Except.map]
  rfl

/-- The records of entries in order keep their order. -/
theorem arranged_ofEntries {entries : List (String × Node)} (ordered : Entries.Ordered entries) :
    (Json.object (ofEntries entries)).arranged =
      .object (entries.map fun entry => (entry.1, (ofNode entry.2).arranged)) := by
  have sameNames : arrangedMembers (ofEntries entries) =
      entries.map fun entry => (entry.1, (ofNode entry.2).arranged) := by
    rw [Json.arrangedMembers_eq_map, ofEntries_eq_map, List.map_map]
    rfl
  rw [arranged, sameNames, Entries.ofList_of_ordered]
  exact (Entries.ordered_map (fun entry => (entry.1, (ofNode entry.2).arranged))
    fun entry _ => rfl).mpr ordered

theorem readEntries_map {entries : List (String × Node)}
    (readBack : ∀ entry ∈ entries, readNode now (ofNode entry.2).arranged = .ok entry.2) :
    readEntries now (entries.map fun entry => (entry.1, (ofNode entry.2).arranged)) =
      .ok entries := by
  induction entries with
  | nil => rfl
  | cons entry rest ih =>
      rw [List.map_cons, readEntries, readBack entry List.mem_cons_self,
        ih fun other member => readBack other (List.mem_cons_of_mem _ member)]
      rfl

theorem nameEntries_of_named {entries : List (String × Node)}
    (named : ∀ entry ∈ entries, entry.2.name = entry.1) : nameEntries entries = entries := by
  have sameEntry : ∀ entry ∈ entries,
      (entry.1, entry.2.withAttributes { entry.2.attributes with name := entry.1 }) = entry := by
    intro entry member
    obtain ⟨key, child⟩ := entry
    have sameName : child.name = key := named _ member
    subst sameName
    cases child <;> rfl
  rw [nameEntries, List.map_congr_left (g := id) sameEntry, List.map_id]

theorem badKey?_eq_none {entries : List (String × Node)}
    (areNames : ∀ entry ∈ entries, Path.IsName entry.1) : badKey? entries = none := by
  rw [badKey?, Option.map_eq_none_iff, List.find?_eq_none]
  intro entry member
  simpa using areNames entry member

/-- The record of a well-formed node is read as that node. -/
theorem readNode_ofNode {node : Node} (wellFormed : node.WellFormed Instant.IsValid) :
    readNode now (ofNode node).arranged = .ok node := by
  induction wellFormed with
  | @file attributes content valid =>
      have isRead : readContent now (Json.string content).arranged =
          .ok (some (.text content)) := by
        rw [arranged, readContent]
      rw [ofNode, readNode_fields valid isRead]
      rfl
  | @directory attributes entries valid ordered named below ih =>
      have isRead : readContent now (Json.object (ofEntries entries)).arranged =
          .ok (some (.entries entries)) := by
        rw [arranged_ofEntries ordered, readContent, readEntries_map ih]
      have noBadKey := badKey?_eq_none fun entry member => (named entry member).1
      have sameEntries := nameEntries_of_named fun entry member => (named entry member).2
      rw [ofNode, readNode_fields valid isRead]
      simp [build, noBadKey, sameEntries]
      rfl

end Record

namespace Snapshot

open Json (arranged depthOfMembers)

variable {root : Node} {taken : Instant} {currentPath : String}

theorem plain_document (taken : Instant) (root : Node) (currentPath : String) :
    (document taken root currentPath).Plain := by
  refine .object ?_
  simp only [List.forall_mem_cons]
  exact ⟨Record.plain_ofNode root, .string _, .string _, .string _,
    fun _ member => absurd member List.not_mem_nil⟩

/-- The document takes one level more than the record of the root. -/
theorem depth_document_le_iff (taken : Instant) (root : Node) (currentPath : String) :
    (document taken root currentPath).depth ≤ Json.depthLimit ↔ root.height ≤ 62 := by
  have recordDepth := Record.depth_ofNode root
  simp only [document, Json.depth, depthOfMembers, Json.depthLimit]
  omega

theorem ofDocument_arranged (now : Instant) (wellFormed : root.WellFormed Instant.IsValid)
    (isDirectory : root.isDirectory = true) (valid : taken.IsValid) :
    ofDocument now (document taken root currentPath).arranged =
      .ok ⟨root, currentPath, some taken, some formatVersion⟩ := by
  have sorted : (document taken root currentPath).arranged = .object
      [("currentPath", .string currentPath), ("root", (Record.ofNode root).arranged),
        ("timestamp", .string taken.text), ("version", .string formatVersion)] := by
    simp only [document, arranged, Json.arrangedMembers, Entries.ofList, List.foldl_cons,
      List.foldl_nil]
    rfl
  have isRecord : ∃ members, (Record.ofNode root).arranged = .object members := by
    cases root <;> exact ⟨_, by rw [Record.ofNode, Record.fields, arranged]⟩
  obtain ⟨members, isObject⟩ := isRecord
  have rootRead : Record.readNode now (Record.ofNode root).arranged = .ok root :=
    Record.readNode_ofNode wellFormed
  rw [isObject] at rootRead
  have fieldsRead : ofFields now (.object
      [("currentPath", .string currentPath), ("root", .object members),
        ("timestamp", .string taken.text), ("version", .string formatVersion)]) =
          .ok ⟨root, currentPath, some taken, some formatVersion⟩ := by
    simp [ofFields, field, Json.member?, Entries.get?, Record.readText, Record.readOptionalText,
      Record.readOptionalInstant, rootRead, Instant.read_text valid, Except.map]
    rfl
  rw [sorted, isObject]
  simp [ofDocument, hasField, Json.member?, Entries.get?, fieldsRead, isDirectory]

theorem toOption_read (now : Instant) (text : String) : (read now text).toOption =
    (Json.read text).toOption.bind fun value => (ofDocument now value).toOption := by
  rw [read]
  cases Json.read text <;> rfl

/-- A snapshot written in a layout of blanks is read as itself if the tree is not too high. -/
theorem read_written_eq_ok_iff {layout : Json.Layout} (blank : layout.Blank) {now : Instant}
    (wellFormed : root.WellFormed Instant.IsValid) (isDirectory : root.isDirectory = true)
    (valid : taken.IsValid) {snapshot : Snapshot} :
    read now ((document taken root currentPath).written layout) = .ok snapshot ↔
      root.height ≤ 62 ∧ snapshot = ⟨root, currentPath, some taken, some formatVersion⟩ := by
  rw [← toOption_eq_some_iff, toOption_read,
    Json.toOption_read_written (plain_document taken root currentPath) blank]
  by_cases low : root.height ≤ 62
  · rw [if_pos ((depth_document_le_iff taken root currentPath).mpr low), Option.bind_some,
      ofDocument_arranged now wellFormed isDirectory valid]
    simp [low, Except.toOption, eq_comm]
  · have deep : ¬ (document taken root currentPath).depth ≤ Json.depthLimit := fun shallow =>
      low ((depth_document_le_iff taken root currentPath).mp shallow)
    simp [low, deep]

/-- The snapshot of a well-formed tree, as it is saved and as it is exported, is read if and only if
every node lies at most 62 levels below the root, and then the tree, the current path, the time and
the version are read that were written. -/
theorem read_document_text (now : Instant) (wellFormed : root.WellFormed Instant.IsValid)
    (isDirectory : root.isDirectory = true) (valid : taken.IsValid) (currentPath : String) :
    ∀ text, (text = (document taken root currentPath).compact ∨
        text = (document taken root currentPath).pretty) →
      ((∃ snapshot, read now text = .ok snapshot) ↔
        ∀ path found, root.find? path = some found → path.length ≤ 62) ∧
      ∀ snapshot, read now text = .ok snapshot →
        snapshot = ⟨root, currentPath, some taken, some "1.0"⟩ := by
  intro text isText
  have isRead : ∀ snapshot, read now text = .ok snapshot ↔ root.height ≤ 62 ∧
      snapshot = ⟨root, currentPath, some taken, some formatVersion⟩ := by
    intro snapshot
    rcases isText with rfl | rfl
    · exact read_written_eq_ok_iff Json.Layout.blank_compact wellFormed isDirectory valid
    · exact read_written_eq_ok_iff Json.Layout.blank_indented wellFormed isDirectory valid
  constructor
  · rw [← Node.height_le_iff wellFormed]
    constructor
    · rintro ⟨snapshot, readAs⟩
      exact ((isRead snapshot).mp readAs).1
    · exact fun low => ⟨_, (isRead _).mpr ⟨low, rfl⟩⟩
  · exact fun snapshot readAs => ((isRead snapshot).mp readAs).2

/-- A file that was modified within a leap second, and whose name and text need escapes. -/
theorem read_document_text_leapSecond :
    let night : Instant := ⟨1483228799, 1500000000⟩
    let root : Node := .directory ⟨"/", "drwxr-xr-x", "root", "root", night⟩
      [("say \"é\"", .file ⟨"say \"é\"", "-rw-r--r--", "user", "user", night⟩ "a\tb\\\n")]
    ∀ text, (text = (document night root "/").compact ∨ text = (document night root "/").pretty) →
      ((∃ snapshot, read night text = .ok snapshot) ↔
        ∀ path found, root.find? path = some found → path.length ≤ 62) ∧
      ∀ snapshot, read night text = .ok snapshot →
        snapshot = ⟨root, "/", some night, some "1.0"⟩ := by
  intro night root
  have valid : night.IsValid := by decide
  refine read_document_text night ?_ rfl valid "/"
  refine .directory valid (List.pairwise_singleton _ _) ?_ ?_
  · intro entry member
    rw [List.mem_singleton.mp member]
    exact ⟨by decide, rfl⟩
  · intro entry member
    rw [List.mem_singleton.mp member]
    exact .file valid

end Snapshot

end TreeShell
