import TreeShell.History
import TreeShell.Line.Run
import TreeShell.Shell.Completion
import TreeShell.Shell.Settings

/-!
# Shell sessions

A shell is a volume with the history of the submitted lines and an environment. Whoever shows
the session is handed a fresh prompt after every line that may have moved the current directory
and after every import.
-/

namespace TreeShell

/-- An open session. -/
structure Shell where
  volume : Volume
  history : History
  environment : Environment

/-- What comes of a step of a session: its result, the session after it, and the fresh prompt if
one is handed out. -/
structure Shell.Reply (ε α : Type) where
  result : Except ε α
  shell : Shell
  freshPrompt : Option String := none

namespace Shell

/-- Opens a session over a store. -/
def openOver (now : Instant) (store : Store) (settings : Settings) : Shell :=
  { volume := Volume.load now store settings.storageKey settings.home
    history := {}
    environment := { user := settings.user, hostname := settings.hostname, startedAt := now } }

/-! ### The prompt -/

/-- A spelling as it is shown: the home and everything below it begin with `~`. -/
def displayPath (home spelling : String) : String :=
  match Text.afterFront? home.toList spelling.toList with
  | some [] => "~"
  | some ('/' :: rest) => String.ofList ('~' :: '/' :: rest)
  | _ => spelling

/-- User, host and current path. -/
def prompt (shell : Shell) : String :=
  shell.environment.user ++ "@" ++ shell.environment.hostname ++ ":" ++
    displayPath (Path.spell shell.volume.home) (Path.spell shell.volume.current) ++ "$ "

/-- The commands after which a fresh prompt is shown. -/
def movingCommands : List Command := [.cd, .importFs, .resetFs, .mv, .rm, .rmdir]

/-- Whether a command, given as words, may move the current directory. -/
def mayMove (words : List String) : Bool :=
  (words.head?.bind Command.named?).any movingCommands.contains

def refreshesPrompt (line : String) : Bool :=
  match Line.parse (Text.trim line) with
  | .error _ => false
  | .ok parsed => parsed.commands.any mayMove

/-! ### Lines -/

def faultMessage (fault : CommandFault) : String := "bash: " ++ fault.message

def context (now : Instant) (shell : Shell) : Context :=
  { now, environment := shell.environment, history := shell.history.entries }

/-- The result of an action and the session after it. -/
def perform {α : Type} (action : Action α) (shell : Shell) : Except CommandFault α × Shell :=
  match action shell.volume with
  | .ok value volume => (.ok value, { shell with volume })
  | .error fault volume => (.error fault, { shell with volume })

/-- Submits a line without blanks around it: it is recorded, whatever becomes of it, and run. -/
def submit (now : Instant) (line : String) (shell : Shell) :
    Except CommandFault Output × Shell :=
  let shell := { shell with history := shell.history.push line }
  match Line.parse line with
  | .error fault => (.error (.syntaxFault fault), shell)
  | .ok parsed => shell.perform (parsed.run (shell.context now))

/-- Executes a line. A blank line is neither recorded nor run. -/
def execute (now : Instant) (line : String) (shell : Shell) : Reply CommandFault Output :=
  let trimmed := Text.trim line
  let (result, after) :=
    if trimmed = "" then (.ok (.text ""), shell) else shell.submit now trimmed
  { result
    shell := after
    freshPrompt := if refreshesPrompt line then some after.prompt else none }

/-! ### The editor and imports -/

def operate {α : Type} (operation : Change α) (shell : Shell) : Except FileFault α × Shell :=
  match operation shell.volume with
  | .ok value volume => (.ok value, { shell with volume })
  | .error fault volume => (.error fault, { shell with volume })

def saveEditor (now : Instant) (spelling content : String) (shell : Shell) :
    Except FileFault Unit × Shell :=
  shell.operate (Volume.writeFile now spelling content)

def importText (now : Instant) (text : String) (shell : Shell) :
    Reply FileFault SnapshotInfo :=
  let (result, after) := shell.operate (Volume.importText now text)
  match result with
  | .ok info => { result := .ok info, shell := after, freshPrompt := some after.prompt }
  | .error fault => { result := .error fault, shell := after }

def importMessage : Except FileFault SnapshotInfo → String
  | .ok info =>
      "File system imported successfully!\nBackup date: " ++
        (info.timestamp.map Instant.offsetText).getD "N/A" ++
        "\nCurrent directory: " ++ info.currentPath
  | .error fault => "Invalid file: " ++ fault.message

def importCancelled : String := "Import cancelled."

/-- Finishes an import with the text that was chosen, if any, and says what came of it. -/
def importChosen (now : Instant) (text : Option String) (shell : Shell) : Reply Empty String :=
  match text with
  | none => { result := .ok importCancelled, shell }
  | some text =>
      let reply := shell.importText now text
      { result := .ok (importMessage reply.result)
        shell := reply.shell
        freshPrompt := reply.freshPrompt }

def complete (shell : Shell) (input : String) : Completion :=
  shell.volume.complete input

end Shell

end TreeShell
