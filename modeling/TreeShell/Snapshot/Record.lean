import TreeShell.Instant.Format
import TreeShell.Instant.Reader
import TreeShell.Json.Value
import TreeShell.Node

/-!
# Nodes as records

In a snapshot a node is a record of its kind, its name, its content, its attributes and its
size. The content of a file is its text and that of a directory an object with a record for
each entry.

Records are read more leniently than they are written. Attributes and content may be missing,
content may also be called `children`, the size is ignored, the name of an entry is taken from
its key, and a record may be a list of its seven fields in a fixed order. Whatever is wrong
inside the content of a directory is reported as one fault, so only the outermost record has a
fault of its own.
-/

namespace TreeShell

/-- Why a JSON value is not the record of a node. -/
inductive RecordFault where
  | wrongType (found : Json) (expected : String)
  | wrongLength (length : Nat)
  | tooLong (length : Nat)
  | missingField (field : String)
  | contentTwice
  | unreadableContent
  | badInstant (fault : InstantFault)
  | textInDirectory (name : String)
  | entriesInFile (name : String)
  | unknownKind (kind : String)
  | badEntryName (key : String) (name : String)

def RecordFault.message : RecordFault → String
  | wrongType found expected => "invalid type: " ++ found.description ++ ", expected " ++ expected
  | wrongLength length =>
      "invalid length " ++ toString length ++ ", expected struct NodeRecord with 7 elements"
  | tooLong length =>
      "invalid length " ++ toString length ++ ", expected fewer elements in array"
  | missingField field => "missing field `" ++ field ++ "`"
  | contentTwice => "duplicate field `content`"
  | unreadableContent => "data did not match any variant of untagged enum RecordContent"
  | badInstant fault => fault.message
  | textInDirectory name => "directory '" ++ name ++ "' has text content"
  | entriesInFile name => "file '" ++ name ++ "' has directory entries"
  | unknownKind kind => "unknown node type '" ++ kind ++ "'"
  | badEntryName key name => "invalid entry name '" ++ key ++ "' in '" ++ name ++ "'"

namespace Record

/-! ### Writing -/

/-- The fields of a record in the order in which they are written. -/
def fields (kind : String) (attributes : Attributes) (content : Json) (size : Nat) : Json :=
  .object
    [("type", .string kind),
     ("name", .string attributes.name),
     ("content", content),
     ("permissions", .string attributes.permissions),
     ("owner", .string attributes.owner),
     ("group", .string attributes.group),
     ("size", .number (.natural size)),
     ("modified", .string attributes.modified.text)]

mutual

def ofNode : Node → Json
  | .file attributes content =>
      fields "file" attributes (.string content) (Node.file attributes content).size
  | .directory attributes entries =>
      fields "directory" attributes (.object (ofEntries entries))
        (Node.directory attributes entries).size

/-- The records of the entries of a directory under their names. -/
def ofEntries : List (String × Node) → List (String × Json)
  | [] => []
  | (name, child) :: rest => (name, ofNode child) :: ofEntries rest

end

/-! ### Reading -/

/-- The content of a record before its kind is looked at. -/
inductive Content where
  | text (content : String)
  | entries (entries : List (String × Node))

/-- The fields met so far while a record is read. -/
structure Fields where
  kind : Option String := none
  name : Option String := none
  content : Option (Option Content) := none
  permissions : Option String := none
  owner : Option String := none
  group : Option String := none
  modified : Option Instant := none

def readText : Json → Except RecordFault String
  | .string text => .ok text
  | found => .error (.wrongType found "a string")

def readOptionalText : Json → Except RecordFault (Option String)
  | .null => .ok none
  | value => (readText value).map some

def readOptionalInstant : Json → Except RecordFault (Option Instant)
  | .null => .ok none
  | .string text =>
      match Instant.read text with
      | .ok instant => .ok (some instant)
      | .error fault => .error (.badInstant fault)
  | found => .error (.wrongType found "an RFC 3339 formatted date and time string")

/-- The first key that cannot name an entry. -/
def badKey? (entries : List (String × Node)) : Option String :=
  (entries.find? fun (key, _) => !decide (Path.IsName key)).map Prod.fst

/-- The entries with every node named by its key. -/
def nameEntries (entries : List (String × Node)) : List (String × Node) :=
  entries.map fun (key, child) => (key, child.withAttributes { child.attributes with name := key })

/-- The node described by the fields of a record. -/
def build (now : Instant) (fields : Fields) : Except RecordFault Node := do
  let kind ← match fields.kind with
    | some kind => pure kind
    | none => throw (.missingField "type")
  let name ← match fields.name with
    | some name => pure name
    | none => throw (.missingField "name")
  let attributes (permissions : String) : Attributes :=
    { name
      permissions := fields.permissions.getD permissions
      owner := fields.owner.getD Node.defaultOwner
      group := fields.group.getD Node.defaultOwner
      modified := fields.modified.getD now }
  if kind = "directory" then
    match fields.content.join with
    | some (.entries entries) =>
        match badKey? entries with
        | some key => throw (.badEntryName key name)
        | none =>
            return .directory (attributes Node.directoryPermissions) (nameEntries entries)
    | none => return .directory (attributes Node.directoryPermissions) []
    | some (.text _) => throw (.textInDirectory name)
  else if kind = "file" then
    match fields.content.join with
    | some (.text content) => return .file (attributes Node.filePermissions) content
    | none => return .file (attributes Node.filePermissions) ""
    | some (.entries _) => throw (.entriesInFile name)
  else throw (.unknownKind kind)

/-- The fields with one more taken in, given what a value in the place of the content reads
as. A field that a record does not have is passed over. -/
def addField (fields : Fields) (key : String) (value : Json)
    (content : Except RecordFault (Option Content)) : Except RecordFault Fields := do
  if key = "type" then return { fields with kind := some (← readText value) }
  else if key = "name" then return { fields with name := some (← readText value) }
  else if key = "content" ∨ key = "children" then
    if fields.content.isSome then throw .contentTwice
    else return { fields with content := some (← content) }
  else if key = "permissions" then
    return { fields with permissions := ← readOptionalText value }
  else if key = "owner" then return { fields with owner := ← readOptionalText value }
  else if key = "group" then return { fields with group := ← readOptionalText value }
  else if key = "modified" then return { fields with modified := ← readOptionalInstant value }
  else return fields

/-- The keys of a record written as a list, in the order of its elements. -/
def listedKeys : List String :=
  ["type", "name", "content", "permissions", "owner", "group", "modified"]

/-- A list of fields that ends before `remaining` is complete only where it may end: content
alone can be left out. -/
def checkLength (remaining : List String) : Except RecordFault Unit :=
  match remaining with
  | [] => .ok ()
  | "content" :: _ => .error (.wrongLength 3)
  | _ => .error (.wrongLength (listedKeys.length - remaining.length))

mutual

def readNode (now : Instant) : Json → Except RecordFault Node
  | .object members => do
      let fields ← readMembers now {} members
      build now fields
  | .array elements => do
      let fields ← readListed now {} listedKeys elements
      if listedKeys.length < elements.length then throw (.tooLong elements.length)
      build now fields
  | found => .error (.wrongType found "struct NodeRecord")

/-- The fields of a record written as an object. -/
def readMembers (now : Instant) (fields : Fields) :
    List (String × Json) → Except RecordFault Fields
  | [] => .ok fields
  | (key, value) :: rest => do
      let fields ← addField fields key value (readContent now value)
      readMembers now fields rest

/-- The fields of a record written as a list. -/
def readListed (now : Instant) (fields : Fields) :
    (keys : List String) → List Json → Except RecordFault Fields
  | [], _ => .ok fields
  | remaining, [] => do
      checkLength remaining
      return fields
  | key :: keys, value :: rest => do
      let fields ← addField fields key value (readContent now value)
      readListed now fields keys rest

/-- A value in the place of the content. -/
def readContent (now : Instant) : Json → Except RecordFault (Option Content)
  | .null => .ok none
  | .string text => .ok (some (.text text))
  | .object members =>
      match readEntries now members with
      | .ok entries => .ok (some (.entries entries))
      | .error _ => .error .unreadableContent
  | _ => .error .unreadableContent

/-- The nodes described by the entries of a directory. -/
def readEntries (now : Instant) : List (String × Json) → Except RecordFault (List (String × Node))
  | [] => .ok []
  | (key, value) :: rest => do
      let child ← readNode now value
      let others ← readEntries now rest
      return (key, child) :: others

end

end Record

end TreeShell
