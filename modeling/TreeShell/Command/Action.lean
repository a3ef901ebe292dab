import TreeShell.Command
import TreeShell.Line.Parse
import TreeShell.Volume

/-!
# Running a command

A command is run with arguments and perhaps with the text of the stage before it. It answers
with a text or with a request to whoever shows the session, or it fails; either way the volume
is handed on as the command left it.
-/

namespace TreeShell

/-- What a command answers: a text, or a request to the surroundings of the session. -/
inductive Output where
  | text (text : String)
  | clearScreen
  | openEditor (path content : String)
  | importRequest
  | exported (fileName snapshot : String)
  | ended (backup : String)
deriving DecidableEq, Repr

/-- The text that an answer passes on to the next stage. -/
def Output.piped : Output → String
  | text value => value
  | _ => ""

/-- Why a line or a command fails. -/
inductive CommandFault where
  | missingOperand (command : Command)
  | notFound (command : Command) (spelling : String)
  | notADirectory (command : Command) (spelling : String)
  | notAFile (command : Command) (spelling : String)
  | alreadyExists (command : Command) (spelling : String)
  | directoryNotEmpty (command : Command) (spelling : String)
  | syntaxFault (fault : SyntaxFault)
  | commandNotFound (name : String)
  | redirectionFailed (reason : String)
  | usage (command : Command) (reason : String)
  | fileFault (command : Command) (fault : FileFault)

def CommandFault.message : CommandFault → String
  | missingOperand command => command.name ++ ": missing operand"
  | notFound command spelling => command.name ++ ": " ++ (FileFault.notFound spelling).message
  | notADirectory command spelling =>
      command.name ++ ": " ++ (FileFault.notADirectory spelling).message
  | notAFile command spelling => command.name ++ ": " ++ (FileFault.notAFile spelling).message
  | alreadyExists command spelling =>
      command.name ++ ": " ++ (FileFault.alreadyExists spelling).message
  | directoryNotEmpty command spelling =>
      command.name ++ ": failed to remove '" ++ spelling ++ "': Directory not empty"
  | syntaxFault fault => "syntax error: " ++ fault.message
  | commandNotFound name => name ++ ": command not found"
  | redirectionFailed reason => "redirection failed: " ++ reason
  | usage command reason => command.name ++ ": " ++ reason
  | fileFault command fault => command.name ++ ": " ++ fault.message

/-- The failure of a command whose operation on the volume failed. -/
def CommandFault.ofFileFault (command : Command) : FileFault → CommandFault
  | .notFound spelling => notFound command spelling
  | .notADirectory spelling => notADirectory command spelling
  | .notAFile spelling => notAFile command spelling
  | .alreadyExists spelling => alreadyExists command spelling
  | fault => fileFault command fault

/-- A computation that may change a volume and may fail as a command. -/
abbrev Action (α : Type) := EStateM CommandFault Volume α

/-- Who is using the session, on which host, and since when. -/
structure Environment where
  user : String
  hostname : String
  startedAt : Instant
deriving DecidableEq, Repr

/-- What a command can know besides the volume: the time, the environment, the lines submitted so
far, its arguments and the text piped into it. -/
structure Invocation where
  now : Instant
  environment : Environment
  history : List String
  arguments : List String
  piped : Option String

namespace Invocation

def isOption (argument : String) : Bool :=
  argument.toList.head? == some '-'

/-- The arguments that are not options. -/
def operands (invocation : Invocation) : List String :=
  invocation.arguments.filter fun argument => !isOption argument

/-- The letters of an argument that is a group of flags: one dash and letters. -/
def flagLetters (argument : String) : List Char :=
  match argument.toList with
  | '-' :: '-' :: _ => []
  | '-' :: letters => letters
  | _ => []

def hasFlag (invocation : Invocation) (flag : Char) : Bool :=
  invocation.arguments.any fun argument => (flagLetters argument).contains flag

end Invocation

namespace Action

/-- An operation on the volume on behalf of a command. -/
def change {α : Type} (command : Command) (operation : Change α) : Action α := fun volume =>
  match operation volume with
  | .ok value changed => .ok value changed
  | .error fault changed => .error (.ofFileFault command fault) changed

/-- An answer found by looking at the volume only. -/
def observe {α : Type} (look : Volume → Except CommandFault α) : Action α := fun volume =>
  match look volume with
  | .ok value => .ok value volume
  | .error fault => .error fault volume

/-- The lines answered for the operands in turn. A failure is a line too, and an operand may
answer none. -/
def collectLines (answer : String → Action (Option String)) :
    List String → Volume → List String × Volume
  | [], volume => ([], volume)
  | operand :: rest, volume =>
      match answer operand volume with
      | .ok line changed =>
          let (lines, final) := collectLines answer rest changed
          (line.toList ++ lines, final)
      | .error fault changed =>
          let (lines, final) := collectLines answer rest changed
          (fault.message :: lines, final)

/-- The answer to a command that works on its operands one by one: with one operand its own line
or failure, with several the lines of all. -/
def forEachOperand (command : Command) (operands : List String)
    (answer : String → Action (Option String)) : Action Output :=
  match operands with
  | [] => throw (.missingOperand command)
  | [operand] => do
      let line ← answer operand
      return .text (line.getD "")
  | _ => fun volume =>
      let (lines, final) := collectLines answer operands volume
      .ok (.text (String.intercalate "\n" lines)) final

end Action

namespace Volume

/-- The text of a file on behalf of a command. -/
def readFor (command : Command) (spelling : String) (volume : Volume) :
    Except CommandFault String :=
  match volume.contentOf spelling with
  | .ok content => .ok content
  | .error fault => .error (.ofFileFault command fault)

/-- The text that a filter works on: what is piped into it, or else the file it names. -/
def filterInput (command : Command) (invocation : Invocation) (file : Option String)
    (volume : Volume) : Except CommandFault String :=
  match invocation.piped with
  | some text => .ok text
  | none =>
      match file with
      | none => .error (.missingOperand command)
      | some spelling => volume.readFor command spelling

end Volume

end TreeShell
