import TreeShell.Program.Host
import TreeShell.Shell

/-!
# Terminals

A terminal uses a shell line by line. Most lines are commands, but some commands open an editor
or ask for the name of a snapshot file, and then the next lines go there. Files are written to
the host's working directory and read from wherever they are named.

A session whose snapshots are kept in a folder of the host sees that folder as its store before
every step, and what it stores is in the host's folder after every step.
-/

namespace TreeShell

/-- What the next line is for. -/
inductive Terminal.Mode where
  | command
  | editing (path : String) (typed : List String)
  | importing
  | closed
deriving DecidableEq, Repr

/-- A shell in use, the host, and the folder of the host in which snapshots are kept. -/
structure Terminal where
  shell : Shell
  host : Host
  folder : Option String
  mode : Terminal.Mode := .command

namespace Terminal

def version : String := "0.1.0"

/-- The shell with the host's folder as its store. -/
def attached (terminal : Terminal) : Shell :=
  match terminal.folder with
  | none => terminal.shell
  | some folder =>
      let volume := terminal.shell.volume
      { terminal.shell with
        volume := { volume with store := terminal.host.storeAt folder volume.storageKey } }

/-- The terminal after a step of its shell, with what the shell stores in the host's folder. -/
def keep (terminal : Terminal) (shell : Shell) : Terminal :=
  match terminal.folder with
  | none => { terminal with shell }
  | some folder =>
      { terminal with shell, host := terminal.host.putStore folder shell.volume.store }

def start (now : Instant) (settings : Shell.Settings) (folder : Option String) (host : Host) :
    Terminal :=
  let store := match folder with
    | none => .memory []
    | some folder => host.storeAt folder settings.storageKey
  let shell := Shell.openOver now store settings
  keep { shell, host, folder } shell

def greeting : String :=
  "simsh " ++ version ++ " - type 'help' for commands, 'exit' to leave.\n"

def prompt (terminal : Terminal) : String :=
  match terminal.mode with
  | .command => terminal.shell.prompt
  | .importing => "Snapshot file to import: "
  | _ => ""

/-! ### Commands -/

/-- A text as a line, unless it is empty. -/
def shownLine (text : String) : String :=
  if text = "" then "" else text ++ "\n"

def exportMessage (fileName : String) : String :=
  "File system exported to '" ++ fileName ++ "'"

def writeFailure (fileName : String) : String := "Failed to write " ++ fileName

def editorOpening (path content : String) : String :=
  "--- " ++ path ++ " ---\n" ++ shownLine content ++
    "--- enter new content, '.' to save, ':q' to quit without saving ---\n"

/-- What is shown after a command, and the terminal as it goes on. -/
def react (terminal : Terminal) : Output → String × Terminal
  | .text text => (shownLine text, terminal)
  | .clearScreen => ("\x1b[2J\x1b[H", terminal)
  | .openEditor path content =>
      (editorOpening path content, { terminal with mode := .editing path [] })
  | .importRequest => ("", { terminal with mode := .importing })
  | .exported fileName snapshot =>
      match terminal.host.write fileName snapshot with
      | .ok host => (exportMessage fileName ++ "\n", { terminal with host })
      | .error fault =>
          ("export-fs: " ++ writeFailure fileName ++ ": " ++ fault.message ++ "\n", terminal)
  | .ended backup =>
      match terminal.host.write Builtin.backupFileName backup with
      | .ok host =>
          ("Backup saved to '" ++ Builtin.backupFileName ++ "'. Session closed.\n",
            { terminal with host, mode := .closed })
      | .error fault =>
          ("exit: " ++ writeFailure Builtin.backupFileName ++ ": " ++ fault.message ++ "\n",
            { terminal with mode := .closed })

def completionText : Completion → String
  | .line text => text ++ "\n"
  | .candidates names => String.intercalate "  " names ++ "\n"
  | .noMatch => ""

/-- A line that is a command. A tab at its end asks for completion instead. -/
def enterCommand (now : Instant) (line : String) (terminal : Terminal) : String × Terminal :=
  match Text.beforeBack? ['\t'] line.toList with
  | some input => (completionText (terminal.shell.complete (String.ofList input)), terminal)
  | none =>
      let reply := terminal.attached.execute now line
      let after := terminal.keep reply.shell
      match reply.result with
      | .error fault => (Shell.faultMessage fault ++ "\n", after)
      | .ok output => after.react output

/-! ### The editor and imports -/

/-- A line of an editor; the lines typed so far are in reverse. A dot saves them, and the text
`:q` leaves the file as it is. -/
def enterEdit (now : Instant) (path : String) (typed : List String) (line : String)
    (terminal : Terminal) : String × Terminal :=
  if line = "." then
    let content := Text.unlines typed.reverse
    let (result, shell) := terminal.attached.saveEditor now path content
    let after := { terminal.keep shell with mode := .command }
    match result with
    | .ok () => ("Saved " ++ path ++ "\n", after)
    | .error fault => ("nano: " ++ fault.message ++ "\n", after)
  else if line = ":q" then ("", { terminal with mode := .command })
  else ("", { terminal with mode := .editing path (line :: typed) })

/-- The text of the snapshot file that a line names; a file that cannot be read counts as none. -/
def chosenText (host : Host) (line : String) : Option String :=
  (host.read (Text.trim line)).toOption

def enterImport (now : Instant) (line : String) (terminal : Terminal) : String × Terminal :=
  let reply := terminal.attached.importChosen now (chosenText terminal.host line)
  let after := { terminal.keep reply.shell with mode := .command }
  match reply.result with
  | .ok message => (message ++ "\n", after)
  | .error impossible => nomatch impossible

/-! ### Sessions -/

/-- What is shown after a line is entered, and the terminal after it. -/
def enter (now : Instant) (line : String) (terminal : Terminal) : String × Terminal :=
  match terminal.mode with
  | .command => terminal.enterCommand now line
  | .editing path typed => terminal.enterEdit now path typed line
  | .importing => terminal.enterImport now line
  | .closed => ("", terminal)

/-- What is shown when no more lines come, and the terminal after it: an editor is left, an import
is cancelled, and then the session closes. -/
def finish (now : Instant) (terminal : Terminal) : String × Terminal :=
  match terminal.mode with
  | .closed => ("", terminal)
  | .command => ("\n", { terminal with mode := .closed })
  | .editing .. => (terminal.shell.prompt ++ "\n", { terminal with mode := .closed })
  | .importing =>
      let (message, after) := terminal.enterImport now ""
      (message ++ after.prompt ++ "\n", { after with mode := .closed })

/-- All that is shown while lines are entered one after the other, and the terminal at the end. -/
def converse (now : Instant) : List String → Terminal → String × Terminal
  | lines, terminal =>
      if terminal.mode = .closed then ("", terminal)
      else
        match lines with
        | [] =>
            let (shown, final) := terminal.finish now
            (terminal.prompt ++ shown, final)
        | line :: rest =>
            let (shown, after) := terminal.enter now line
            let (more, final) := converse now rest after
            (terminal.prompt ++ shown ++ more, final)

end Terminal

end TreeShell
