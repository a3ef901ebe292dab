import TreeShell.Json.Printer
import TreeShell.Json.Reader
import TreeShell.Snapshot.Record

/-!
# Snapshots

A snapshot is the whole tree, the spelling of the current path and the time at which it was
taken. It is what a store keeps and what exports and imports exchange. Only the tree and the
current path have to be there when a snapshot is read.
-/

namespace TreeShell

/-- Why a text is not a snapshot. -/
inductive SnapshotFault where
  | notJson (error : Json.ReadError)
  | missing (field : String)
  | record (fault : RecordFault)
  | rootNotDirectory

def SnapshotFault.message : SnapshotFault → String
  | notJson error => error.message
  | missing field => "missing '" ++ field ++ "'"
  | record fault => fault.message
  | rootNotDirectory => "root is not a directory"

/-- A tree with the spelling of the current path, the time it was saved and the version of the
format. -/
structure Snapshot where
  root : Node
  currentPath : String
  timestamp : Option Instant
  version : Option String

namespace Snapshot

def formatVersion : String := "1.0"

/-- The document of a tree and a current path, saved at a time. -/
def document (now : Instant) (root : Node) (currentPath : String) : Json :=
  .object
    [("root", Record.ofNode root),
     ("currentPath", .string currentPath),
     ("timestamp", .string now.text),
     ("version", .string formatVersion)]

/-- Whether a document has a value other than null under a key. -/
def hasField (document : Json) (field : String) : Bool :=
  match document.member? field with
  | none => false
  | some .null => false
  | some _ => true

/-- The value under a key, and null if there is none. -/
def field (document : Json) (key : String) : Json :=
  (document.member? key).getD .null

/-- The parts of a document that has a tree and a current path, read in the order of their
keys. -/
def ofFields (now : Instant) (document : Json) : Except RecordFault Snapshot := do
  let currentPath ← Record.readText (field document "currentPath")
  let root ← Record.readNode now (field document "root")
  let timestamp ← Record.readOptionalInstant (field document "timestamp")
  let version ← Record.readOptionalText (field document "version")
  return { root, currentPath, timestamp, version }

/-- The snapshot that a document describes; nodes without a modification time get `now`. -/
def ofDocument (now : Instant) (document : Json) : Except SnapshotFault Snapshot :=
  if !hasField document "root" then .error (.missing "root")
  else if !hasField document "currentPath" then .error (.missing "currentPath")
  else
    match ofFields now document with
    | .error fault => .error (.record fault)
    | .ok snapshot => if snapshot.root.isDirectory then .ok snapshot else .error .rootNotDirectory

/-- The snapshot that a text denotes. -/
def read (now : Instant) (text : String) : Except SnapshotFault Snapshot :=
  match Json.read text with
  | .error error => .error (.notJson error)
  | .ok document => ofDocument now document

end Snapshot

end TreeShell
