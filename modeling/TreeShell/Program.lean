import TreeShell.Program.Arguments
import TreeShell.Program.Options
import TreeShell.Program.Terminal

/-!
# The program

A call of the program runs one line, or a whole session with the lines of its input. It ends
with a code and with texts on its two outputs, and may have changed files of the host.
-/

namespace TreeShell

/-- How a call of the program ends. -/
structure Outcome where
  code : Nat
  shown : String := ""
  complaint : String := ""
  host : Host

namespace Program

/-- How a failure is told that has a cause. -/
def complaintText (failure cause : String) : String :=
  "Error: " ++ failure ++ "\n\nCaused by:\n    " ++ cause ++ "\n"

def helpText : String :=
  Text.unlines
    ["A simulated Linux shell over a persistent virtual file system",
     "",
     "Usage: simsh [OPTIONS]",
     "",
     "Options:",
     "  -c <COMMAND>                 Run one command line and exit",
     "      --config <CONFIG>        TOML file with session options",
     "      --state-dir <STATE_DIR>  Directory holding the persisted snapshot",
     "      --ephemeral              Keep the file system in memory only",
     "      --json                   Print -c results as JSON (output, error, exitCode)",
     "  -h, --help                   Print help",
     "  -V, --version                Print version",
     ""]

def refusalText : String :=
  "error: the arguments cannot be used\n\nFor more information, try '--help'.\n"

/-- The options of a call: those of the file it names, overridden by its arguments. -/
def options (arguments : Arguments) (host : Host) : Except String Options := do
  let fromFile ← match arguments.config with
    | none => pure {}
    | some path =>
        match host.read path with
        | .error fault =>
            .error (complaintText
              ("cannot read config file " ++ path ++ ": " ++ fault.message) fault.message)
        | .ok text =>
            match Options.read? text with
            | none => .error (complaintText "invalid config" "the text cannot be read")
            | some options => .ok options
  return { fromFile with
    stateFolder := arguments.stateFolder <|> fromFile.stateFolder
    ephemeral := fromFile.ephemeral || arguments.ephemeral }

/-- What is shown of the result of one line, as an object if that is asked for. -/
def report (json : Bool) (output : String) (failure : Option String) (host : Host) : Outcome :=
  let code := if failure.isSome then 1 else 0
  if json then
    let object : Json := .object
      [("error", (failure.map Json.string).getD .null),
       ("exitCode", .number (.natural code)),
       ("output", .string output)]
    { code, shown := object.compact ++ "\n", host }
  else
    { code
      shown := Terminal.shownLine output
      complaint := (failure.map (· ++ "\n")).getD ""
      host }

/-- Writes a snapshot that one line hands out. -/
def exportAfterLine (json : Bool) (fileName snapshot : String) (host : Host) : Outcome :=
  match host.write fileName snapshot with
  | .ok host => report json (Terminal.exportMessage fileName) none host
  | .error fault =>
      { code := 1
        complaint := complaintText (Terminal.writeFailure fileName) fault.message
        host }

def runLine (now : Instant) (line : String) (json : Bool) (terminal : Terminal) : Outcome :=
  let reply := terminal.attached.execute now line
  let host := (terminal.keep reply.shell).host
  match reply.result with
  | .ok (.text text) => report json text none host
  | .ok (.exported fileName snapshot) => exportAfterLine json fileName snapshot host
  | .ok (.ended backup) => exportAfterLine json Builtin.backupFileName backup host
  | .ok _ => report json "" none host
  | .error fault => report json "" (some (Shell.faultMessage fault)) host

/-- Runs what arguments state, with lines as input. -/
def start (now : Instant) (arguments : Arguments) (input : String) (host : Host) : Outcome :=
  match options arguments host with
  | .error complaint => { code := 1, complaint, host }
  | .ok options =>
      let terminal := Terminal.start now options.settings (options.folder? host.dataFolder) host
      match arguments.command with
      | some line => runLine now line arguments.json terminal
      | none =>
          let (shown, final) := terminal.converse now (Text.lines input)
          { code := 0, shown := Terminal.greeting ++ shown, host := final.host }

def run (now : Instant) (arguments : List String) (input : String) (host : Host) : Outcome :=
  match Arguments.read arguments with
  | .refusal => { code := 2, complaint := refusalText, host }
  | .help => { code := 0, shown := helpText, host }
  | .version => { code := 0, shown := "simsh " ++ Terminal.version ++ "\n", host }
  | .start arguments => start now arguments input host

end Program

end TreeShell
