import TreeShell.Proofs.Json.Values
import TreeShell.Proofs.WellFormed
import TreeShell.Snapshot

/-!
# Trees that are read

A node read from a record is well-formed, however the record came about: the keys of an object are
in order already, those that cannot name an entry are refused, and every entry is named by its key.
-/

namespace TreeShell

namespace Record

variable {times : Instant → Prop} {now : Instant}

/-- Content with well-formed entries in order, whatever their names. -/
def Content.Sound (times : Instant → Prop) : Content → Prop
  | .text _ => True
  | .entries nodes => Entries.Ordered nodes ∧ ∀ entry ∈ nodes, entry.2.WellFormed times

/-- Fields whose content is sound and whose time is one of certain times. -/
structure Fields.Sound (times : Instant → Prop) (fields : Fields) : Prop where
  content : ∀ content, fields.content = some (some content) → content.Sound times
  modified : ∀ instant, fields.modified = some instant → times instant

theorem timely_of_readOptionalInstant
    (readable : ∀ text instant, Instant.read text = .ok instant → times instant) {value : Json}
    {instant : Instant} (isRead : readOptionalInstant value = .ok (some instant)) :
    times instant := by
  cases value with
  | string text =>
      simp only [readOptionalInstant] at isRead
      split at isRead
      next read isInstant =>
        cases isRead
        exact readable text _ isInstant
      next => cases isRead
  | null => cases isRead
  | bool value => cases isRead
  | number value => cases isRead
  | array elements => cases isRead
  | object members => cases isRead

/-! ### Where fields come from -/

/-- Fields whose content and time were read from some of certain values. -/
structure Fields.From (now : Instant) (values : List Json) (fields : Fields) : Prop where
  content : ∀ content, fields.content = some (some content) →
    ∃ value ∈ values, readContent now value = .ok (some content)
  modified : ∀ instant, fields.modified = some instant →
    ∃ value ∈ values, readOptionalInstant value = .ok (some instant)

theorem Fields.from_empty (now : Instant) (values : List Json) : Fields.From now values {} where
  content := fun _ isContent => by cases isContent
  modified := fun _ isModified => by cases isModified

theorem Fields.From.addField {values : List Json} {fields added : Fields}
    (isFrom : fields.From now values) {key : String} {value : Json} (among : value ∈ values)
    (isAdded : addField fields key value (readContent now value) = .ok added) :
    added.From now values := by
  have keepsBoth : ∀ changed : Fields, changed.content = fields.content →
      changed.modified = fields.modified → changed.From now values := fun changed sameContent
        sameTime => ⟨sameContent ▸ isFrom.content, sameTime ▸ isFrom.modified⟩
  unfold Record.addField at isAdded
  split at isAdded
  next =>
    obtain ⟨kind, -, isAdded⟩ := bind_eq_ok.mp isAdded
    cases isAdded
    exact keepsBoth _ rfl rfl
  split at isAdded
  next =>
    obtain ⟨name, -, isAdded⟩ := bind_eq_ok.mp isAdded
    cases isAdded
    exact keepsBoth _ rfl rfl
  split at isAdded
  next =>
    split at isAdded
    next => cases isAdded
    next =>
      obtain ⟨found, isFound, isAdded⟩ := bind_eq_ok.mp isAdded
      cases isAdded
      refine ⟨?_, isFrom.modified⟩
      intro content same
      cases same
      exact ⟨value, among, isFound⟩
  split at isAdded
  next =>
    obtain ⟨permissions, -, isAdded⟩ := bind_eq_ok.mp isAdded
    cases isAdded
    exact keepsBoth _ rfl rfl
  split at isAdded
  next =>
    obtain ⟨owner, -, isAdded⟩ := bind_eq_ok.mp isAdded
    cases isAdded
    exact keepsBoth _ rfl rfl
  split at isAdded
  next =>
    obtain ⟨group, -, isAdded⟩ := bind_eq_ok.mp isAdded
    cases isAdded
    exact keepsBoth _ rfl rfl
  split at isAdded
  next =>
    obtain ⟨modified, isModified, isAdded⟩ := bind_eq_ok.mp isAdded
    cases isAdded
    refine ⟨isFrom.content, ?_⟩
    intro instant same
    cases same
    exact ⟨value, among, isModified⟩
  next =>
    cases isAdded
    exact isFrom

theorem from_of_readMembers {values : List Json} {members : List (String × Json)}
    (among : ∀ member ∈ members, member.2 ∈ values) {fields read : Fields}
    (isFrom : fields.From now values) (isRead : readMembers now fields members = .ok read) :
    read.From now values := by
  induction members generalizing fields with
  | nil =>
      simp only [readMembers] at isRead
      cases isRead
      exact isFrom
  | cons first rest ih =>
      simp only [readMembers] at isRead
      obtain ⟨added, isAdded, isRead⟩ := bind_eq_ok.mp isRead
      have addedFrom := isFrom.addField (among first List.mem_cons_self) isAdded
      exact ih (fun member inRest => among member (List.mem_cons_of_mem _ inRest)) addedFrom isRead

theorem from_of_readListed {values elements : List Json} {keys : List String}
    (among : ∀ element ∈ elements, element ∈ values) {fields read : Fields}
    (isFrom : fields.From now values) (isRead : readListed now fields keys elements = .ok read) :
    read.From now values := by
  induction elements generalizing fields keys with
  | nil =>
      cases keys with
      | nil =>
          simp only [readListed] at isRead
          cases isRead
          exact isFrom
      | cons key keys =>
          simp only [readListed] at isRead
          obtain ⟨-, -, isRead⟩ := bind_eq_ok.mp isRead
          cases isRead
          exact isFrom
  | cons first rest ih =>
      cases keys with
      | nil =>
          simp only [readListed] at isRead
          cases isRead
          exact isFrom
      | cons key keys =>
          simp only [readListed] at isRead
          obtain ⟨added, isAdded, isRead⟩ := bind_eq_ok.mp isRead
          have addedFrom := isFrom.addField (among first List.mem_cons_self) isAdded
          exact ih (fun element inRest => among element (List.mem_cons_of_mem _ inRest)) addedFrom
            isRead

/-- A node is built from fields that were read from the parts of a value. -/
theorem exists_build_of_readNode {value : Json} {node : Node}
    (isRead : readNode now value = .ok node) :
    ∃ fields : Fields, fields.From now value.parts ∧ build now fields = .ok node := by
  cases value with
  | object members =>
      simp only [readNode] at isRead
      obtain ⟨fields, areFields, isBuilt⟩ := bind_eq_ok.mp isRead
      refine ⟨fields, from_of_readMembers ?_ (Fields.from_empty now _) areFields, isBuilt⟩
      exact fun member isMember => List.mem_map_of_mem isMember
  | array elements =>
      simp only [readNode] at isRead
      obtain ⟨fields, areFields, isRead⟩ := bind_eq_ok.mp isRead
      have isFrom : fields.From now elements :=
        from_of_readListed (fun _ isElement => isElement) (Fields.from_empty now _) areFields
      split at isRead
      next => cases isRead
      next => exact ⟨fields, isFrom, isRead⟩
  | _ => simp [readNode] at isRead

theorem exists_readEntries_of_readContent {value : Json} {entries : List (String × Node)}
    (isRead : readContent now value = .ok (some (.entries entries))) :
    ∃ members, value = .object members ∧ readEntries now members = .ok entries := by
  cases value with
  | object members =>
      simp only [readContent] at isRead
      split at isRead
      next areEntries =>
        cases isRead
        exact ⟨members, rfl, areEntries⟩
      next => cases isRead
  | _ => simp [readContent] at isRead

theorem isName_of_badKey?_eq_none {entries : List (String × Node)}
    (allGood : badKey? entries = none) : ∀ entry ∈ entries, Path.IsName entry.1 := by
  intro entry member
  have good := List.find?_eq_none.mp (Option.map_eq_none_iff.mp allGood) entry member
  simpa using good

theorem map_fst_nameEntries (entries : List (String × Node)) :
    (nameEntries entries).map Prod.fst = entries.map Prod.fst := by
  simp [nameEntries]

theorem wellFormed_nameEntries {attributes : Attributes} (timely : times attributes.modified)
    {entries : List (String × Node)} (sound : Content.Sound times (.entries entries))
    (areNames : ∀ entry ∈ entries, Path.IsName entry.1) :
    Node.WellFormed times (.directory attributes (nameEntries entries)) := by
  obtain ⟨ordered, below⟩ := sound
  refine .directory timely ?_ ?_ ?_
  · rw [Entries.ordered_iff_names, map_fst_nameEntries, ← Entries.ordered_iff_names]
    exact ordered
  · intro entry member
    obtain ⟨old, isEntry, rfl⟩ := List.mem_map.mp member
    refine ⟨areNames old isEntry, ?_⟩
    dsimp only
    rw [Node.name, Node.attributes_withAttributes]
  · intro entry member
    obtain ⟨old, isEntry, rfl⟩ := List.mem_map.mp member
    have childWellFormed := below old isEntry
    exact childWellFormed.withAttributes childWellFormed.timely

/-- A node that is built is a file, or a directory whose entries, if it has any, are the content
with every entry named by its key. -/
theorem build_cases {fields : Fields} {node : Node} (isBuilt : build now fields = .ok node) :
    ∃ attributes : Attributes, attributes.modified = fields.modified.getD now ∧
      ((∃ content, node = .file attributes content) ∨
        ∃ entries, node = .directory attributes (nameEntries entries) ∧
          badKey? entries = none ∧
          (entries = [] ∨ fields.content = some (some (.entries entries)))) := by
  unfold Record.build at isBuilt
  cases isKind : fields.kind with
  | none =>
      rw [isKind] at isBuilt
      cases isBuilt
  | some kind => ?_
  cases isName : fields.name with
  | none =>
      rw [isKind, isName] at isBuilt
      cases isBuilt
  | some name => ?_
  rw [isKind, isName] at isBuilt
  dsimp only [bind, Except.bind, pure, Except.pure] at isBuilt
  split at isBuilt
  next =>
    split at isBuilt
    next entries isContent =>
      split at isBuilt
      next => cases isBuilt
      next allGood =>
        cases isBuilt
        refine ⟨_, rfl, Or.inr ⟨entries, rfl, allGood, Or.inr ?_⟩⟩
        exact Option.join_eq_some_iff.mp isContent
    next =>
      cases isBuilt
      exact ⟨_, rfl, Or.inr ⟨[], rfl, rfl, Or.inl rfl⟩⟩
    next => cases isBuilt
  next =>
    split at isBuilt
    next =>
      split at isBuilt
      next =>
        cases isBuilt
        exact ⟨_, rfl, Or.inl ⟨_, rfl⟩⟩
      next =>
        cases isBuilt
        exact ⟨_, rfl, Or.inl ⟨_, rfl⟩⟩
      next => cases isBuilt
    next => cases isBuilt

theorem Fields.Sound.build {fields : Fields} (sound : fields.Sound times) (timely : times now)
    {node : Node} (isBuilt : build now fields = .ok node) : node.WellFormed times := by
  have timelyModified : times (fields.modified.getD now) := by
    cases isModified : fields.modified with
    | none => exact timely
    | some instant => exact sound.modified instant isModified
  obtain ⟨attributes, sameTime, isFile | isDirectory⟩ := build_cases isBuilt
  · obtain ⟨content, rfl⟩ := isFile
    exact .file (sameTime ▸ timelyModified)
  · obtain ⟨entries, rfl, allGood, isContent⟩ := isDirectory
    refine wellFormed_nameEntries (sameTime ▸ timelyModified) ?_ (isName_of_badKey?_eq_none allGood)
    rcases isContent with rfl | isContent
    · exact ⟨Entries.ordered_nil, fun entry member => absurd member List.not_mem_nil⟩
    · exact sound.content (.entries entries) isContent

theorem map_fst_of_readEntries {members : List (String × Json)} {entries : List (String × Node)}
    (isRead : readEntries now members = .ok entries) :
    entries.map Prod.fst = members.map Prod.fst := by
  induction members generalizing entries with
  | nil =>
      simp only [readEntries] at isRead
      cases isRead
      rfl
  | cons first rest ih =>
      simp only [readEntries] at isRead
      obtain ⟨child, -, isRead⟩ := bind_eq_ok.mp isRead
      obtain ⟨others, areOthers, isRead⟩ := bind_eq_ok.mp isRead
      cases isRead
      rw [List.map_cons, List.map_cons, ih areOthers]

theorem exists_member_of_readEntries {members : List (String × Json)}
    {entries : List (String × Node)} (isRead : readEntries now members = .ok entries) :
    ∀ entry ∈ entries, ∃ member ∈ members, readNode now member.2 = .ok entry.2 := by
  induction members generalizing entries with
  | nil =>
      simp only [readEntries] at isRead
      cases isRead
      exact fun entry member => absurd member List.not_mem_nil
  | cons first rest ih =>
      simp only [readEntries] at isRead
      obtain ⟨child, isChild, isRead⟩ := bind_eq_ok.mp isRead
      obtain ⟨others, areOthers, isRead⟩ := bind_eq_ok.mp isRead
      cases isRead
      intro entry isEntry
      rcases List.mem_cons.mp isEntry with rfl | inRest
      · exact ⟨first, List.mem_cons_self, isChild⟩
      · obtain ⟨member, isMember, isNode⟩ := ih areOthers entry inRest
        exact ⟨member, List.mem_cons_of_mem _ isMember, isNode⟩

/-! ### What is read is well-formed -/

/-- What is read from one value, as a node and as a content. -/
def Reads (times : Instant → Prop) (now : Instant) (value : Json) : Prop :=
  (∀ node, readNode now value = .ok node → node.WellFormed times) ∧
    ∀ content, readContent now value = .ok (some content) → content.Sound times

theorem Fields.From.sound
    (readable : ∀ text instant, Instant.read text = .ok instant → times instant)
    {values : List Json} (reads : ∀ value ∈ values, Reads times now value) {fields : Fields}
    (isFrom : fields.From now values) : fields.Sound times := by
  constructor
  · intro content isContent
    obtain ⟨value, among, isRead⟩ := isFrom.content content isContent
    exact (reads value among).2 content isRead
  · intro instant isModified
    obtain ⟨value, among, isRead⟩ := isFrom.modified instant isModified
    exact timely_of_readOptionalInstant readable isRead

theorem reads_of_inOrder (timely : times now)
    (readable : ∀ text instant, Instant.read text = .ok instant → times instant) {value : Json}
    (inOrder : value.InOrder) : Reads times now value := by
  -- The content of a record is a value inside it, so both ways of reading go through one induction.
  induction value using Json.induct_parts with
  | whole value ih =>
      have reads : ∀ part ∈ value.parts, Reads times now part := fun part isPart =>
        ih part isPart (inOrder.of_mem_parts isPart)
      constructor
      · intro node isRead
        obtain ⟨fields, isFrom, isBuilt⟩ := exists_build_of_readNode isRead
        exact (isFrom.sound readable reads).build timely isBuilt
      · intro content isRead
        cases content with
        | text content => trivial
        | entries entries =>
            obtain ⟨members, rfl, areEntries⟩ := exists_readEntries_of_readContent isRead
            constructor
            · rw [Entries.ordered_iff_names, map_fst_of_readEntries areEntries,
                ← Entries.ordered_iff_names]
              cases inOrder with
              | object ordered below => exact ordered
            · intro entry isEntry
              obtain ⟨member, isMember, isNode⟩ :=
                exists_member_of_readEntries areEntries entry isEntry
              exact (reads member.2 (List.mem_map_of_mem isMember)).1 entry.2 isNode

end Record

namespace Snapshot

theorem field_mem_parts {document : Json} {key : String} (given : field document key ≠ .null) :
    field document key ∈ document.parts := by
  unfold field at given ⊢
  cases document with
  | object members =>
      cases found : Json.member? key (.object members) with
      | none => exact absurd (by rw [found]; rfl) given
      | some value => exact List.mem_map_of_mem (Entries.mem_of_get? found)
  | _ => exact absurd rfl given

/-- The root of a snapshot is read from a value inside the document. -/
theorem exists_document_of_read {now : Instant} {text : String} {snapshot : Snapshot}
    (isRead : read now text = .ok snapshot) :
    ∃ document, Json.read text = .ok document ∧ field document "root" ∈ document.parts ∧
      Record.readNode now (field document "root") = .ok snapshot.root ∧
      snapshot.root.isDirectory = true := by
  unfold read at isRead
  split at isRead
  next => cases isRead
  next document isDocument =>
    unfold ofDocument at isRead
    split at isRead
    next => cases isRead
    split at isRead
    next => cases isRead
    split at isRead
    next => cases isRead
    next read fieldsRead =>
      split at isRead
      next isDirectory =>
        cases isRead
        obtain ⟨currentPath, -, fieldsRead⟩ := bind_eq_ok.mp fieldsRead
        obtain ⟨root, isRoot, fieldsRead⟩ := bind_eq_ok.mp fieldsRead
        obtain ⟨timestamp, -, fieldsRead⟩ := bind_eq_ok.mp fieldsRead
        obtain ⟨version, -, fieldsRead⟩ := bind_eq_ok.mp fieldsRead
        cases fieldsRead
        refine ⟨document, isDocument, field_mem_parts ?_, isRoot, isDirectory⟩
        intro isNull
        rw [isNull, Record.readNode] at isRoot
        · cases isRoot
        all_goals exact fun _ same => by cases same
      next => cases isRead

/-- The tree of a snapshot that is read is well-formed, and its root is a directory. -/
theorem wellFormed_of_read {times : Instant → Prop} {now : Instant} (timely : times now)
    (readable : ∀ text instant, Instant.read text = .ok instant → times instant) {text : String}
    {snapshot : Snapshot} (isRead : read now text = .ok snapshot) :
    snapshot.root.WellFormed times ∧ snapshot.root.isDirectory = true := by
  obtain ⟨document, isDocument, isPart, isRoot, isDirectory⟩ := exists_document_of_read isRead
  have inOrder := (Json.inOrder_of_read isDocument).of_mem_parts isPart
  exact ⟨(Record.reads_of_inOrder timely readable inOrder).1 _ isRoot, isDirectory⟩

end Snapshot

end TreeShell
