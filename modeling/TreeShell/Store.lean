import TreeShell.Entries
import TreeShell.Text.Split

/-!
# Stores

A store keeps texts under keys. A memory store takes any key. A folder store keeps every text
in a file of its own whose name is made from the key, so it takes only keys that make plain
file names; it writes to a temporary file first and then renames it. A folder that is not there
yet is made by the first text that is put. Where a folder cannot be made, every call fails.

Most of the texts that are put are replaced before anyone asks for them, so a text is worked out
only when it is asked for.
-/

namespace TreeShell

/-- Why a store does not answer. -/
inductive StoreFault where
  | invalidKey (key : String)
  | inaccessible
deriving DecidableEq, Repr

def StoreFault.message : StoreFault → String
  | invalidKey key => "invalid store key '" ++ key ++ "'"
  | inaccessible => "store I/O error"

/-- A text that is kept, worked out when it is first asked for. -/
abbrev KeptText := Thunk String

/-- A folder of the host: the texts of its files under their names, and the names that no file in
it can have, such as those of folders. The files of a folder that is not there yet are those that
it will turn out to have. -/
structure Folder where
  files : Entries KeptText := []
  refused : List String := []
  isThere : Bool := true

/-- The contents of a store: texts under keys, or a folder. -/
inductive Store where
  | memory (texts : Entries KeptText)
  | folder (folder : Folder)
  | inaccessible

/-- A call that may change a store and may fail. -/
abbrev StoreChange := EStateM StoreFault Store Unit

namespace Folder

def read (name : String) (folder : Folder) : Except StoreFault (Option String) :=
  if !folder.isThere then .ok none
  else if name ∈ folder.refused then .error .inaccessible
  else .ok ((Entries.get? name folder.files).map Thunk.get)

/-- Writes a text to a file with a temporary name and gives the file its name after that. -/
def replace (temporary name : String) (text : KeptText) (folder : Folder) :
    EStateM.Result StoreFault Folder Unit :=
  let folder := { folder with isThere := true }
  if temporary ∈ folder.refused then .error .inaccessible folder
  else
    let written := Entries.put temporary text folder.files
    if name ∈ folder.refused then .error .inaccessible { folder with files := written }
    else
      .ok () { folder with files := Entries.put name text (Entries.remove temporary written) }

/-- Removes the file with a name, if there is one. -/
def erase (name : String) (folder : Folder) : EStateM.Result StoreFault Folder Unit :=
  if !folder.isThere then .ok () folder
  else if name ∈ folder.refused then .error .inaccessible folder
  else .ok () { folder with files := Entries.remove name folder.files }

end Folder

namespace Store

/-- The characters of a key that makes a file name. -/
def isKeyChar (c : Char) : Bool :=
  ('a' ≤ c && c ≤ 'z') || ('A' ≤ c && c ≤ 'Z') || ('0' ≤ c && c ≤ '9') || c == '-' || c == '_' ||
    c == '.'

/-- Keys that make file names: letters, digits, dashes, underscores and dots, not starting with
a dot. -/
def isFileKey (key : String) : Bool :=
  !key.toList.isEmpty && key.toList.all isKeyChar && key.toList.head? != some '.'

def fileName (key : String) : String := key ++ ".json"

/-- A file name with the part after its last dot replaced. A dot that starts the name does not
count. -/
def withExtension (name extension : String) : String :=
  match Text.splitLast? '.' name.toList with
  | some (c :: stem, _) => String.ofList (c :: stem) ++ "." ++ extension
  | _ => name ++ "." ++ extension

/-- The name of the file that is written before it becomes the file for a key. -/
def temporaryName (key : String) : String := withExtension (fileName key) "json.tmp"

/-- A change of a folder as a change of the store that it is. -/
def inFolder : EStateM.Result StoreFault Folder Unit → EStateM.Result StoreFault Store Unit
  | .ok () changed => .ok () (folder changed)
  | .error fault changed => .error fault (folder changed)

def get (key : String) (store : Store) : Except StoreFault (Option String) :=
  match store with
  | memory texts => .ok ((Entries.get? key texts).map Thunk.get)
  | folder kept => if isFileKey key then kept.read (fileName key) else .error (.invalidKey key)
  | inaccessible => .error (if isFileKey key then .inaccessible else .invalidKey key)

def set (key : String) (text : KeptText) : StoreChange := fun store =>
  match store with
  | memory texts => .ok () (memory (Entries.put key text texts))
  | folder kept =>
      if isFileKey key then inFolder (kept.replace (temporaryName key) (fileName key) text)
      else .error (.invalidKey key) store
  | inaccessible => .error (if isFileKey key then .inaccessible else .invalidKey key) store

def remove (key : String) : StoreChange := fun store =>
  match store with
  | memory texts => .ok () (memory (Entries.remove key texts))
  | folder kept =>
      if isFileKey key then inFolder (kept.erase (fileName key))
      else .error (.invalidKey key) store
  | inaccessible => .error (if isFileKey key then .inaccessible else .invalidKey key) store

/-- The store after a call, whether the call failed or not. -/
def after (change : StoreChange) (store : Store) : Store :=
  match change store with
  | .ok () changed => changed
  | .error _ changed => changed

end Store

end TreeShell
