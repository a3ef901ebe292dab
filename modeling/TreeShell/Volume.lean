import TreeShell.Snapshot
import TreeShell.Store

/-!
# Volumes

A volume is a tree with a current path and a home, and a store in which a snapshot of the tree
and the current path is kept. Every change that succeeds saves a snapshot; a store that refuses
it does not disturb the session. After a change that can remove directories, the current path
is cut back to the part that is still there.

Nodes are named by spellings of their paths, and faults repeat the spelling they were given.
-/

namespace TreeShell

/-- Why an operation on a volume fails. -/
inductive FileFault where
  | notFound (spelling : String)
  | parentNotFound (spelling : String)
  | alreadyExists (spelling : String)
  | notADirectory (spelling : String)
  | notAFile (spelling : String)
  | invalidMove (source target : String)
  | invalidSnapshot (fault : SnapshotFault)

def FileFault.message : FileFault → String
  | notFound spelling => "'" ++ spelling ++ "': No such file or directory"
  | parentNotFound spelling => "cannot create '" ++ spelling ++ "': parent directory not found"
  | alreadyExists spelling => "'" ++ spelling ++ "': File exists"
  | notADirectory spelling => "'" ++ spelling ++ "': Not a directory"
  | notAFile spelling => "'" ++ spelling ++ "': Not a regular file"
  | invalidMove source target =>
      "cannot move '" ++ source ++ "' to a subdirectory of itself, '" ++ target ++ "'"
  | invalidSnapshot fault => "invalid snapshot: " ++ fault.message

/-- A tree, the current path, the home directory, and the store with the key under which
snapshots are kept. -/
structure Volume where
  root : Node
  current : Path
  home : Path
  storageKey : String
  store : Store

/-- An operation that may change a volume and may fail. -/
abbrev Change (α : Type) := EStateM FileFault Volume α

/-- What is reported about a snapshot that was read. -/
structure SnapshotInfo where
  timestamp : Option Instant
  currentPath : String
deriving DecidableEq, Repr

namespace Volume

/-! ### Looking -/

def resolve (volume : Volume) (spelling : String) : Path :=
  Path.resolve volume.current spelling

def node? (volume : Volume) (spelling : String) : Option Node :=
  volume.root.find? (volume.resolve spelling)

def contentOf (volume : Volume) (spelling : String) : Except FileFault String :=
  match volume.node? spelling with
  | none => .error (.notFound spelling)
  | some node =>
      match node.content? with
      | none => .error (.notAFile spelling)
      | some content => .ok content

/-- The entries of the directory that a spelling names, or of the current directory. -/
def listDirectory (volume : Volume) (spelling : Option String) :
    Except FileFault (Entries Node) :=
  let spelling := spelling.getD (Path.spell volume.current)
  match (volume.node? spelling).bind Node.entries? with
  | none => .error (.notADirectory spelling)
  | some entries => .ok entries

/-- The paths of the files at and below the place that a spelling names whose name or path
contains a text. -/
def findFiles (volume : Volume) (pattern spelling : String) : List String :=
  let start := volume.resolve spelling
  match volume.root.find? start with
  | none => []
  | some node =>
      (node.walk start).filterMap fun (path, found) =>
        if found.isFile && (Text.contains found.name pattern ||
            Text.contains (Path.spell path) pattern) then
          some (Path.spell path)
        else none

/-! ### Saving -/

/-- The text of a snapshot of a tree and a current path as it is saved. -/
def snapshotText (now : Instant) (root : Node) (current : Path) : KeptText :=
  Thunk.mk fun _ => (Snapshot.document now root (Path.spell current)).compact

/-- The text of a snapshot of the volume as it is exported. -/
def exportText (now : Instant) (volume : Volume) : String :=
  (Snapshot.document now volume.root (Path.spell volume.current)).pretty

/-- The volume with a snapshot saved; a store that refuses it changes nothing else. -/
def save (now : Instant) (volume : Volume) : Volume :=
  { volume with
    store := volume.store.after
      (Store.set volume.storageKey (snapshotText now volume.root volume.current)) }

/-- The longest part of a path, from a node down, that leads through directories only. -/
def surviving : Node → Path → Path
  | _, [] => []
  | node, name :: rest =>
      match node.child? name with
      | some child => if child.isDirectory then name :: surviving child rest else []
      | none => []

/-- The volume with the current path cut back to what is still a directory. -/
def repair (volume : Volume) : Volume :=
  { volume with current := surviving volume.root volume.current }

/-! ### Changing -/

def createDirectory (now : Instant) (spelling : String) : Change Unit := fun volume =>
  match Path.split? (volume.resolve spelling) with
  | none => .error (.alreadyExists spelling) volume
  | some (parent, name) =>
      if (volume.node? spelling).isSome then .error (.alreadyExists spelling) volume
      else
        match volume.root.insert? parent name (Node.newDirectory now name) with
        | none => .error (.parentNotFound spelling) volume
        | some root => .ok () (save now { volume with root })

/-- Makes a file, in place of any entry that has its name. -/
def createFile (now : Instant) (spelling content : String) : Change Unit := fun volume =>
  match Path.split? (volume.resolve spelling) with
  | none => .error (.notAFile spelling) volume
  | some (parent, name) =>
      match volume.root.insert? parent name (Node.newFile now name content) with
      | none => .error (.parentNotFound spelling) volume
      | some root => .ok () (save now { volume with root })

/-- Gives a file another text, or makes it if there is none. -/
def writeFile (now : Instant) (spelling content : String) : Change Unit := fun volume =>
  match volume.node? spelling with
  | none => createFile now spelling content volume
  | some _ =>
      match volume.root.change? (Node.replaceContent? now content) (volume.resolve spelling) with
      | none => .error (.notAFile spelling) volume
      | some root => .ok () (save now { volume with root })

def removeNode (now : Instant) (spelling : String) : Change Unit := fun volume =>
  match Path.split? (volume.resolve spelling) with
  | none => .error (.notFound spelling) volume
  | some (parent, name) =>
      match volume.root.erase? parent name with
      | none => .error (.notFound spelling) volume
      | some root => .ok () (save now (repair { volume with root }))

/-- The attributes of a node that is moved to a name: it belongs to the default owner and counts
as modified. -/
def movedAttributes (now : Instant) (name : String) (attributes : Attributes) : Attributes :=
  { attributes with
    name, owner := Node.defaultOwner, group := Node.defaultOwner, modified := now }

/-- Puts a node where it is moved to and takes it away from where it was. -/
def relocate (now : Instant) (source target : String) (node : Node) (origin destination : Path) :
    Change Unit := fun volume =>
  match Path.split? destination with
  | none => .error (.notAFile target) volume
  | some (parent, name) =>
      let moved := node.withAttributes (movedAttributes now name node.attributes)
      match volume.root.insert? parent name moved with
      | none => .error (.parentNotFound target) volume
      | some inserted =>
          match Path.split? origin with
          | none => .error (.notFound source) { volume with root := inserted }
          | some (parent, name) =>
              match inserted.erase? parent name with
              | none => .error (.notFound source) { volume with root := inserted }
              | some root => .ok () (save now (repair { volume with root }))

/-- Moves a node to another path, in place of a file or an empty directory that is there. A node
is not moved below itself, and not onto a directory that it lies in or that holds something. -/
def moveNode (now : Instant) (source target : String) : Change Unit := fun volume =>
  let origin := volume.resolve source
  let destination := volume.resolve target
  match volume.root.find? origin with
  | none => .error (.notFound source) volume
  | some node =>
      if origin = destination then .ok () volume
      else if origin.isPrefixOf destination then .error (.invalidMove source target) volume
      else if destination.isPrefixOf origin then .error (.alreadyExists target) volume
      else if ((volume.root.find? destination).bind Node.entries?).any (!·.isEmpty) then
        .error (.alreadyExists target) volume
      else relocate now source target node origin destination volume

def changeDirectory (now : Instant) (spelling : String) : Change Unit := fun volume =>
  let path := volume.resolve spelling
  match volume.root.find? path with
  | none => .error (.notFound spelling) volume
  | some node =>
      if node.isDirectory then .ok () (save now { volume with current := path })
      else .error (.notADirectory spelling) volume

/-! ### Snapshots -/

/-- The volume with the tree and the current path of a snapshot. The root is named `/` whatever
the snapshot calls it. -/
def install (snapshot : Snapshot) (volume : Volume) : Volume :=
  let attributes := { snapshot.root.attributes with name := "/" }
  repair
    { volume with
      root := snapshot.root.withAttributes attributes
      current := Path.follow [] snapshot.currentPath }

/-- Replaces the tree and the current path by those of a snapshot text. -/
def importText (now : Instant) (text : String) : Change SnapshotInfo := fun volume =>
  match Snapshot.read now text with
  | .error fault => .error (.invalidSnapshot fault) volume
  | .ok snapshot =>
      .ok ⟨snapshot.timestamp, snapshot.currentPath⟩ (save now (install snapshot volume))

/-- What the saved snapshot reports, if there is one that can be read. -/
def savedInfo (now : Instant) (volume : Volume) : Option SnapshotInfo :=
  match volume.store.get volume.storageKey with
  | .ok (some text) =>
      match Snapshot.read now text with
      | .ok snapshot => some ⟨snapshot.timestamp, snapshot.currentPath⟩
      | .error _ => none
  | _ => none

end Volume

end TreeShell
