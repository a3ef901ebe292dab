import TreeShell.Entries
import TreeShell.Instant
import TreeShell.Path

/-!
# The tree

A node is a file with its text, or a directory with named entries in order. Every node also
records its own name, its permissions and owner as texts, and when it was last modified. Looking
up and changing nodes goes by paths; a change below a missing node or below a file is none.
-/

namespace TreeShell

/-- What is recorded about a node besides what it holds. -/
structure Attributes where
  name : String
  permissions : String
  owner : String
  group : String
  modified : Instant
deriving DecidableEq, Repr

/-- A file or a directory with everything below it. -/
inductive Node where
  | file (attributes : Attributes) (content : String)
  | directory (attributes : Attributes) (entries : List (String × Node))

namespace Node

def directoryPermissions : String := "drwxr-xr-x"

def filePermissions : String := "-rw-r--r--"

def defaultOwner : String := "user"

/-- The size that every directory is shown with. -/
def directorySize : Nat := 4096

def newDirectory (now : Instant) (name : String) : Node :=
  directory ⟨name, directoryPermissions, defaultOwner, defaultOwner, now⟩ []

def newFile (now : Instant) (name content : String) : Node :=
  file ⟨name, filePermissions, defaultOwner, defaultOwner, now⟩ content

/-- A new root: an empty directory that belongs to `root`. -/
def newRoot (now : Instant) : Node :=
  directory ⟨"/", directoryPermissions, "root", "root", now⟩ []

def attributes : Node → Attributes
  | file attributes _ => attributes
  | directory attributes _ => attributes

def withAttributes (attributes : Attributes) : Node → Node
  | file _ content => file attributes content
  | directory _ entries => directory attributes entries

def name (node : Node) : String := node.attributes.name

def isDirectory : Node → Bool
  | file .. => false
  | directory .. => true

def isFile : Node → Bool
  | file .. => true
  | directory .. => false

def content? : Node → Option String
  | file _ content => some content
  | directory .. => none

def entries? : Node → Option (Entries Node)
  | file .. => none
  | directory _ entries => some entries

/-- The bytes of a file, counted in 64 bits, and the fixed size of a directory. -/
def size : Node → Nat
  | file _ content => content.utf8ByteSize % (1 <<< 64)
  | directory .. => directorySize

/-- The entry of a directory under a name; a file has none. -/
def child? (name : String) : Node → Option Node
  | file .. => none
  | directory _ entries => Entries.get? name entries

/-- The node at a path below a node. -/
def find? : Node → Path → Option Node
  | node, [] => some node
  | node, name :: rest => (node.child? name).bind fun child => child.find? rest

/-- The directory with a node put under a name; none for a file. -/
def putChild? (name : String) (child : Node) : Node → Option Node
  | file .. => none
  | directory attributes entries => some (directory attributes (Entries.put name child entries))

/-- The directory without its entry of a name; none for a file or if there is no such entry. -/
def removeChild? (name : String) : Node → Option Node
  | file .. => none
  | directory attributes entries =>
      (Entries.get? name entries).map fun _ => directory attributes (Entries.remove name entries)

/-- The tree with the node at a path changed; none if there is no such node or if it cannot be
changed so. -/
def change? (alter : Node → Option Node) : Path → Node → Option Node
  | [], node => alter node
  | name :: rest, node =>
      (node.child? name).bind fun child =>
        (change? alter rest child).bind fun changed => putChild? name changed node

/-- The tree with a node put under a name into the directory at a path. -/
def insert? (root : Node) (parent : Path) (name : String) (child : Node) : Option Node :=
  change? (putChild? name child) parent root

/-- The tree without the entry of a name in the directory at a path. -/
def erase? (root : Node) (parent : Path) (name : String) : Option Node :=
  change? (removeChild? name) parent root

/-- A file with another text and modification time; none for a directory. -/
def replaceContent? (now : Instant) (content : String) : Node → Option Node
  | file attributes _ => some (file { attributes with modified := now } content)
  | directory .. => none

def hasDirectory (root : Node) (path : Path) : Bool :=
  (root.find? path).any isDirectory

mutual

/-- The node and everything below it with their paths, a directory before its entries. -/
def walk (path : Path) : Node → List (Path × Node)
  | file attributes content => [(path, file attributes content)]
  | directory attributes entries => (path, directory attributes entries) :: walkEntries path entries

/-- The nodes at and below the entries of a directory. -/
def walkEntries (path : Path) : List (String × Node) → List (Path × Node)
  | [] => []
  | (name, child) :: rest => walk (path ++ [name]) child ++ walkEntries path rest

end

end Node

end TreeShell
