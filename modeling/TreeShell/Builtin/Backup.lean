import TreeShell.Command.Action
import TreeShell.Instant.Format
import TreeShell.Text.Lines
import TreeShell.Volume.Seed

/-!
# Commands for the volume as a whole

Starting again from the initial tree, telling what is saved, and handing the volume out as a
snapshot text.
-/

namespace TreeShell.Builtin

def exportFileName (date : Date) : String :=
  "linux-filesystem-" ++ date.text ++ ".json"

/-- The name of the file for the backup made when a session ends. -/
def backupFileName : String := "linux-filesystem-backup.json"

/-- Starts again with the initial tree. -/
def resetFs (invocation : Invocation) : Action Output := fun volume =>
  .ok (.text "File system reset to its initial state. All changes were discarded.")
    (Volume.reset invocation.now volume)

/-- Tells when the saved snapshot was taken and what its current path is. -/
def debugFs (invocation : Invocation) : Action Output :=
  Action.observe fun volume =>
    .ok (.text
      (match volume.savedInfo invocation.now with
      | none => "No saved file system found."
      | some info =>
          "File system saved at: " ++ (info.timestamp.map Instant.offsetText).getD "unknown" ++
            "\nCurrent directory: " ++ info.currentPath))

/-- Hands out a snapshot of the volume under a name with the date. -/
def exportFs (invocation : Invocation) : Action Output :=
  Action.observe fun volume =>
    .ok (.exported (exportFileName invocation.now.date) (volume.exportText invocation.now))

/-- Ends the session with a snapshot of the volume. -/
def exit (invocation : Invocation) : Action Output :=
  Action.observe fun volume => .ok (.ended (volume.exportText invocation.now))

end TreeShell.Builtin
