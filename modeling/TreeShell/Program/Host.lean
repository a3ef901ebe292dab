import TreeShell.Store

/-!
# Host files

The part of the host's files that the program works with: texts under their places, and folders.
A place is spelled by the names that lead to it from the working directory, or from the top if it
starts with a slash.

A spelling is followed name by name, and only through directories: a step up from a directory that
is not there leads nowhere. The host refuses names and spellings that are too long.
-/

namespace TreeShell

/-- Why a host file cannot be read or written. -/
inductive HostFault where
  | missing
  | alreadyThere
  | isDirectory
  | notDirectory
  | tooLong
  | zeroCharacter
deriving DecidableEq, Repr

/-- The wording of a fault with its number in the host's system. -/
def HostFault.message : HostFault → String
  | missing => "No such file or directory (os error 2)"
  | alreadyThere => "File exists (os error 17)"
  | isDirectory => "Is a directory (os error 21)"
  | notDirectory => "Not a directory (os error 20)"
  | tooLong => "File name too long (os error 36)"
  | zeroCharacter => "file name contained an unexpected NUL byte"

/-- Texts of files under their places, the places of folders that are there whether they hold files
or not, and the folder in which programs keep their data. -/
structure Host where
  files : Entries KeptText := []
  folders : List String := []
  dataFolder : String := ".local/share"

namespace Host

/-! ### Places -/

/-- The names that lead to a place; those of a place from the top begin with an empty one, and
those of a place above the working directory with steps up. -/
abbrev Names := List String

def placeOf (names : Names) : String := String.intercalate "/" names

/-- One segment of a spelling followed from a place. -/
def step (names : Names) (segment : String) : Names :=
  if segment = "" ∨ segment = "." then names
  else if segment = ".." then
    if names = [""] then names
    else if names = [] ∨ names.getLast? = some ".." then names ++ [".."]
    else names.dropLast
  else names ++ [segment]

/-- Where a spelling starts and the segments it goes on with. -/
def startAndSegments (spelling : String) : Names × List String :=
  match (Text.splitOn '/' spelling.toList).map String.ofList with
  | "" :: segments => if Text.beginsWith spelling "/" then ([""], segments) else ([], [""])
  | segments => ([], segments)

/-- The names that a spelling leads to, whether there is anything or not. -/
def follow (spelling : String) : Names :=
  let (start, segments) := startAndSegments spelling
  segments.foldl step start

def fileIn (folder name : String) : String :=
  if folder = "" ∨ folder.toList.getLast? = some '/' then folder ++ name
  else folder ++ "/" ++ name

/-! ### Looking -/

def longestName : Nat := 255

def longestSpelling : Nat := 4095

def isFile (host : Host) (names : Names) : Bool :=
  (Entries.get? (placeOf names) host.files).isSome

/-- Whether there is a directory at a place: at the working directory, above it, at the top, at the
place of a folder, and wherever something lies below. -/
def isDirectory (host : Host) (names : Names) : Bool :=
  names.all (fun name => name == "" || name == "..") ||
    host.folders.contains (placeOf names) ||
    (host.files.map Prod.fst ++ host.folders).any fun place =>
      Text.beginsWith place (placeOf names ++ "/")

/-- Whether something can be looked up at a place, which takes a directory. -/
def enter (host : Host) (names : Names) : Except HostFault Unit :=
  if host.isFile names then .error .notDirectory
  else if host.isDirectory names then .ok ()
  else .error .missing

/-- The place that segments lead to from a place, through directories only. -/
def locateFrom (host : Host) (here : Names) : List String → Except HostFault Names
  | [] => .ok here
  | segment :: rest => do
      host.enter here
      if longestName < segment.utf8ByteSize then throw .tooLong
      locateFrom host (step here segment) rest

/-- Whether a spelling can name anything on the host. -/
def checkSpelling (spelling : String) : Except HostFault Unit :=
  if '\x00' ∈ spelling.toList then .error .zeroCharacter
  else if longestSpelling < spelling.utf8ByteSize then .error .tooLong
  else .ok ()

/-- The place that a spelling leads to, whether there is anything at its end or not. -/
def locate (host : Host) (spelling : String) : Except HostFault Names := do
  checkSpelling spelling
  let (start, segments) := startAndSegments spelling
  host.locateFrom start segments

/-- The directory that a spelling leads to, if it leads to one. -/
def directory? (host : Host) (spelling : String) : Option Names :=
  match host.locate spelling with
  | .ok names => if host.isDirectory names && !host.isFile names then some names else none
  | .error _ => none

def read (host : Host) (spelling : String) : Except HostFault String := do
  if spelling = "" then throw .missing
  let names ← host.locate spelling
  match Entries.get? (placeOf names) host.files with
  | some text => return text.get
  | none => throw (if host.isDirectory names then .isDirectory else .missing)

/-! ### Writing -/

/-- The host with a file of a name in the working directory. -/
def write (host : Host) (name : String) (text : KeptText) : Except HostFault Host :=
  if host.isDirectory [name] then .error .isDirectory
  else .ok { host with files := Entries.put name text host.files }

def addFolder (host : Host) (names : Names) : Host :=
  { host with folders := (host.folders.erase (placeOf names)) ++ [placeOf names] }

/-- The host with a new folder where a spelling leads to. Its last name must be free and no step to
a folder that is there already; slashes behind it do not count. -/
def makeFolder (host : Host) (spelling : String) : Except HostFault Host := do
  checkSpelling spelling
  let (start, segments) := startAndSegments spelling
  match segments.reverse.dropWhile (· == "") with
  | [] => throw (if start = [] then .missing else .alreadyThere)
  | last :: before => do
      let parent ← host.locateFrom start before.reverse
      host.enter parent
      if last = "." ∨ last = ".." then throw .alreadyThere
      if longestName < last.utf8ByteSize then throw .tooLong
      let names := parent ++ [last]
      if host.isFile names || host.isDirectory names then throw .alreadyThere
      return host.addFolder names

/-- A spelling and those of the folders above it, the nearest first, as far as it names them. Single
dots count only at the beginning. -/
def spellingsAbove (spelling : String) : List String :=
  let (start, segments) := startAndSegments spelling
  let plain := segments.filter fun segment => segment ≠ "" ∧ segment ≠ "."
  let names := if segments.head? = some "." then "." :: plain else plain
  let above := (List.range names.length).tail.reverse.map fun count =>
    placeOf (start ++ names.take count)
  if names = [] then [] else spelling :: above

/-- The host with a folder where a spelling leads to; one that is there already will do. -/
def ensureFolder (host : Host) (spelling : String) : Except HostFault Host :=
  match host.makeFolder spelling with
  | .error .alreadyThere =>
      if (host.directory? spelling).isSome then .ok host else .error .alreadyThere
  | made => made

/-- Makes the first of some folders, each of which lies in the one after it. Where that one is
missing it is made first. -/
def makeFoldersIn : List String → EStateM HostFault Host Unit
  | [], host => .ok () host
  | spelling :: above, host =>
      match host.ensureFolder spelling with
      | .ok made => .ok () made
      | .error .missing =>
          match makeFoldersIn above host with
          | .error fault made => .error fault made
          | .ok () made =>
              match made.ensureFolder spelling with
              | .ok made => .ok () made
              | .error fault => .error fault made
      | .error fault => .error fault host

/-- Makes the folder that a spelling leads to, with all folders on the way to it. -/
def makeFolders (spelling : String) : EStateM HostFault Host Unit :=
  makeFoldersIn (spellingsAbove spelling)

/-! ### Folders as stores -/

/-- The name of a file that lies directly in a directory. -/
def nameIn? (names : Names) (place : String) : Option String :=
  let front := if names = [] then "" else placeOf names ++ "/"
  match Text.afterFront? front.toList place.toList with
  | some rest => if rest = [] ∨ '/' ∈ rest then none else some (String.ofList rest)
  | none => none

/-- The texts of the files that lie directly in a directory. -/
def filesIn (host : Host) (names : Names) : Entries KeptText :=
  host.files.filterMap fun (place, text) => (nameIn? names place).map fun name => (name, text)

/-- The folder that a spelling leads to as a store for a key. What it refuses is told for the names
that the key asks for. -/
def storeAt (host : Host) (spelling key : String) : Store :=
  match makeFolders spelling host with
  | .error _ _ => .inaccessible
  | .ok () made =>
      match made.directory? spelling with
      | none => .inaccessible
      | some names =>
          let isRefused (name : String) : Bool :=
            made.isDirectory (names ++ [name]) || longestName < name.utf8ByteSize ||
              longestSpelling < (fileIn spelling name).utf8ByteSize
          .folder
            { files := made.filesIn names
              refused := [Store.fileName key, Store.temporaryName key].filter isRefused
              isThere := (host.directory? spelling).isSome }

/-- The host with a directory that holds some files directly, in place of those that were there. -/
def putFiles (host : Host) (names : Names) (files : Entries KeptText) : Host :=
  let others := host.files.filter fun (place, _) => (nameIn? names place).isNone
  { host.addFolder names with
    files := files.foldl
      (fun all (name, text) => Entries.put (placeOf (names ++ [name])) text all) others }

/-- The host after a folder of it has served as a store. Whoever finds no folder tries to make
one. -/
def putStore (host : Host) (spelling : String) : Store → Host
  | .memory _ => host
  | .inaccessible =>
      match makeFolders spelling host with
      | .ok () made => made
      | .error _ made => made
  | .folder folder =>
      if !folder.isThere then host
      else
        match makeFolders spelling host with
        | .error _ made => made
        | .ok () made =>
            match made.directory? spelling with
            | none => made
            | some names => made.putFiles names folder.files

/-! ### Changes -/

/-- Whether a place lies in the working directory or below it. -/
def isInside (place : String) : Bool :=
  !Text.beginsWith place "/" && !Text.beginsWith place "../"

/-- The files that are new or have another text than before. -/
def writtenSince (before after : Host) : Entries String :=
  (after.files.map fun (place, text) => (place, text.get)).filter fun (place, text) =>
    (Entries.get? place before.files).map Thunk.get != some text

def removedSince (before after : Host) : List String :=
  (before.files.filter fun (place, _) => (Entries.get? place after.files).isNone).map Prod.fst

def foldersSince (before after : Host) : List String :=
  after.folders.filter fun place => !before.folders.contains place

end Host

end TreeShell
