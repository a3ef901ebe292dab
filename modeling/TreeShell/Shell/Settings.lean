/-!
# Settings of a session

What a session needs to know before it opens.
-/

namespace TreeShell

/-- Who uses a session and on which host, where the home is, and under which key snapshots are
kept. -/
structure Shell.Settings where
  user : String := "user"
  hostname : String := "linux"
  home : String := "/home/user"
  storageKey : String := "linux-simulator-filesystem"
deriving DecidableEq, Repr

end TreeShell
