import TreeShell.Command.Action
import TreeShell.Instant.Format
import TreeShell.Text.Lines

/-!
# Commands that report

These commands tell about the session, the commands themselves and a fixed picture of a machine
with processes and disks. They change nothing.
-/

namespace TreeShell.Builtin

open Text (padLeft padRight zeroPad)

/-! ### The machine -/

/-- A process of the machine with its share of processor time and memory in per cent. -/
structure Process where
  number : Nat
  name : String
  processor : String
  memory : String
deriving DecidableEq, Repr

def processes : List Process :=
  [⟨1, "init", "0.1", "2.5"⟩, ⟨123, "bash", "0.2", "1.8"⟩, ⟨456, "firefox", "15.3", "24.6"⟩,
   ⟨789, "code", "8.7", "12.3"⟩]

def processLine (number name processor memory : String) : String :=
  String.intercalate " "
    [padLeft 6 number, padRight 15 name, padLeft 5 processor, padLeft 5 memory]

def ps : Output :=
  .text (Text.unlines
    (processLine "PID" "COMMAND" "%CPU" "%MEM" ::
      processes.map fun process =>
        processLine (toString process.number) process.name process.processor process.memory))

def df : Output :=
  .text (Text.unlines
    ["Filesystem     1K-blocks    Used Available Use% Mounted on",
     "/dev/sda1       20971520 5242880  15728640  26% /",
     "tmpfs            2097152       0   2097152   0% /tmp",
     "/dev/sda2       10485760 1048576   9437184  10% /home"])

/-- The name of the system, or everything about it. -/
def uname (invocation : Invocation) : Output :=
  if invocation.hasFlag 'a' then
    .text ("Linux simulator 5.4.0-42-generic #46-Ubuntu SMP Fri Jul 10 00:24:02 UTC 2020 " ++
      "x86_64 x86_64 x86_64 GNU/Linux")
  else .text "Linux"

/-! ### The session -/

def whoami (invocation : Invocation) : Output :=
  .text invocation.environment.user

def date (invocation : Invocation) : Output :=
  .text invocation.now.calendarText

/-- The time, and for how many hours and minutes the session has been open. -/
def uptime (invocation : Invocation) : Output :=
  let minutes := invocation.now.minutesSince invocation.environment.startedAt
  .text (" " ++ invocation.now.timeText ++ " up " ++ toString (minutes / 60) ++ ":" ++
    zeroPad 2 (minutes % 60) ++ ", 1 user, load average: 0.00, 0.01, 0.05")

/-- The submitted lines with their numbers, all of them or as many of the last as the first
argument says. -/
def history (invocation : Invocation) : Output :=
  let lines := invocation.history
  let wanted := (invocation.arguments.head?.bind Text.unsigned64?).getD lines.length
  let skipped := lines.length - wanted
  .text (Text.unlines
    ((lines.zipIdx.drop skipped).map fun (line, before) =>
      padLeft 4 (toString (before + 1)) ++ " " ++ line))

def echo (invocation : Invocation) : Output :=
  .text (String.intercalate " " invocation.arguments)

/-! ### The commands -/

/-- Whether names are those of commands. -/
def which (invocation : Invocation) : Action Output :=
  Action.forEachOperand .which invocation.operands fun name =>
    return some (if (Command.named? name).isSome then "/bin/" ++ name else name ++ ": not found")

def help : Output :=
  .text (Text.unlines
    (["Available commands:", ""] ++ Command.all.map (fun command => "  " ++ command.summary) ++
      ["",
       "Pipes and redirection:",
       "  cmd1 | cmd2                  feed the output of cmd1 to cmd2",
       "  cmd > file                   write the output of cmd to file",
       "  Example: ls -l | grep txt | sort"]))

/-- What the manual says about a command beyond its summary. -/
def manualSections : Command → List String
  | .ls =>
      ["OPTIONS",
       "    -l  use a long listing format",
       "    -a  do not ignore entries starting with .",
       "    -h  print sizes in human readable form"]
  | .rm =>
      ["OPTIONS",
       "    -r, -R  remove directories and their contents recursively",
       "    -f      ignore nonexistent files, never fail"]
  | .grep =>
      ["DESCRIPTION",
       "    Search for PATTERN (case-insensitive) in each FILE or in piped input.",
       "",
       "OPTIONS",
       "    -v  select non-matching lines",
       "    -n  prefix each line with its line number"]
  | .nano =>
      ["DESCRIPTION",
       "    Opens FILE in the editor. Saving writes the buffer back to the file,",
       "    creating it if needed."]
  | .exportFs =>
      ["DESCRIPTION",
       "    Exports the whole virtual file system to a JSON file that can be kept",
       "    and imported later."]
  | .importFs =>
      ["DESCRIPTION",
       "    Imports a previously exported JSON file. The current file system is",
       "    replaced completely."]
  | .exit =>
      ["DESCRIPTION",
       "    Saves the file system as a JSON backup and ends the session."]
  | _ => []

/-- How a command is used and what it is for, cut apart at the first gap of its summary. -/
def usageAndPurpose (command : Command) : List Char × List Char :=
  let summary := command.summary.toList
  (Text.splitOnce? [' ', ' '] summary).getD (summary, [])

def manualPage (command : Command) : String :=
  let (usage, purpose) := usageAndPurpose command
  let sections := manualSections command
  Text.unlines
    ([command.name.toUpper ++ "(1)",
      "",
      "NAME",
      "    " ++ command.name ++ " - " ++ String.ofList (Text.trimChars purpose),
      "",
      "SYNOPSIS",
      "    " ++ String.ofList (Text.trimChars usage)] ++
      if sections.isEmpty then [] else "" :: sections)

def man (invocation : Invocation) : Action Output :=
  match invocation.operands with
  | [] => throw (.usage .man "what manual page do you want?")
  | topic :: _ =>
      match Command.named? topic with
      | some command => return .text (manualPage command)
      | none => throw (.usage .man ("no manual entry for " ++ topic))

end TreeShell.Builtin
