import TreeShell.Volume

/-!
# The initial tree

A volume without a usable snapshot starts with a small system tree and a home directory. The
home may be anywhere, so what is planted for it can meet the rest: directories are made only
where there is nothing yet, files replace what is there, and what cannot be placed is left out.
-/

namespace TreeShell.Volume

def welcomeText : String :=
  "Welcome to the Linux terminal simulator!\n" ++
  "This is a safe environment for learning.\n" ++
  "\n" ++
  "Try a few commands:\n" ++
  "- ls to list files\n" ++
  "- cd to change directory\n" ++
  "- cat to read this file\n" ++
  "- help to see every available command"

def exampleText : String := "This is a sample file in the Documents folder."

def notesText : String :=
  "# Notes\n" ++
  "\n" ++
  "- This is a markdown file\n" ++
  "- You can use grep to search text\n" ++
  "- Try: grep \"markdown\" notes.md"

/-- The accounts of the system; the second one lives in the home directory. -/
def accountsText (home : Path) : String :=
  "root:x:0:0:root:/root:/bin/bash\n" ++
  "user:x:1000:1000:User:" ++ Path.spell home ++ ":/bin/bash\n"

def hostsText : String := "127.0.0.1 localhost\n::1 localhost\n"

def systemLogText : String :=
  "2024-01-01 10:00:00 System started\n" ++
  "2024-01-01 10:01:00 User logged in\n" ++
  "2024-01-01 10:02:00 Network connected\n"

/-- The directories of the system, parents before children. -/
def systemDirectories : List Path :=
  [["etc"], ["var"], ["var", "log"], ["usr"], ["usr", "bin"], ["tmp"], ["bin"], ["sbin"], ["dev"],
   ["proc"], ["sys"]]

def homeDirectories : List String := ["Documents", "Downloads", "Pictures", "Music", "Videos"]

/-- All directories that are planted: those of the system, the way to the home, and those of
the home. -/
def seedDirectories (home : Path) : List Path :=
  systemDirectories ++ Path.wayTo home ++ homeDirectories.map fun name => home ++ [name]

/-- All files that are planted, with their texts. -/
def seedFiles (home : Path) : List (Path × String) :=
  [(home ++ ["welcome.txt"], welcomeText),
   (home ++ ["Documents", "example.txt"], exampleText),
   (home ++ ["Documents", "notes.md"], notesText),
   (["etc", "passwd"], accountsText home),
   (["etc", "hosts"], hostsText),
   (["var", "log", "system.log"], systemLogText)]

/-- The tree with a node made for a path put there, if the parent is a directory. -/
def plant (path : Path) (make : String → Node) (root : Node) : Node :=
  match Path.split? path with
  | none => root
  | some (parent, name) => (root.insert? parent name (make name)).getD root

/-- The tree with a directory, unless there is something at its path. -/
def plantDirectory (now : Instant) (root : Node) (path : Path) : Node :=
  if (root.find? path).isSome then root else plant path (Node.newDirectory now) root

def plantFile (now : Instant) (root : Node) (file : Path × String) : Node :=
  plant file.1 (fun name => Node.newFile now name file.2) root

/-- The initial tree for a home. -/
def seedTree (now : Instant) (home : Path) : Node :=
  let bare := (seedDirectories home).foldl (plantDirectory now) (Node.newRoot now)
  (seedFiles home).foldl (plantFile now) bare

/-- The volume with the initial tree, standing in the home, and saved. -/
def seed (now : Instant) (volume : Volume) : Volume :=
  save now (repair { volume with root := seedTree now volume.home, current := volume.home })

/-- The volume that a store holds under a key, or else the initial one. -/
def load (now : Instant) (store : Store) (storageKey home : String) : Volume :=
  let blank : Volume :=
    { root := Node.newRoot now, current := [], home := Path.follow [] home, storageKey, store }
  match store.get storageKey with
  | .ok (some text) =>
      match Snapshot.read now text with
      | .ok snapshot => install snapshot blank
      | .error _ => seed now blank
  | _ => seed now blank

/-- Drops the saved snapshot and starts again with the initial tree. -/
def reset (now : Instant) (volume : Volume) : Volume :=
  seed now { volume with store := volume.store.after (Store.remove volume.storageKey) }

end TreeShell.Volume
