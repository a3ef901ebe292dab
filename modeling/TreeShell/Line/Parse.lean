import TreeShell.Line.Word
import TreeShell.Text.Blank
import TreeShell.Text.Split

/-!
# Command lines

A line is either a pipeline, whose stages are separated by `|`, or one command whose output is
redirected by ` > ` into a file. The two cannot be combined. Quotes do not protect either
separator: the line is cut first, and each part is read as words afterwards.
-/

namespace TreeShell

/-- What is wrong with a line that is neither a pipeline nor a redirected command. -/
inductive SyntaxFault where
  | pipeWithRedirection
  | missingCommand
  | missingTarget
  | secondRedirection
  | emptyStage
  | emptyCommand
deriving DecidableEq, Repr

def SyntaxFault.message : SyntaxFault → String
  | pipeWithRedirection => "pipes cannot be combined with redirection"
  | missingCommand => "missing command before '>'"
  | missingTarget => "missing file after '>'"
  | secondRedirection => "only one redirection is allowed"
  | emptyStage => "empty pipeline stage"
  | emptyCommand => "empty command"

/-- A line cut into words: the stages of a pipeline, or a command and the file its output goes
to. -/
inductive Line where
  | pipeline (stages : List (List String))
  | redirect (command : List String) (target : String)
deriving DecidableEq, Repr

namespace Line

/-- The separator between a command and the file that receives its output. -/
def redirection : List Char := " > ".toList

/-- The text between a pair of quotes of one kind, if it stands between such a pair. -/
def betweenQuotes? (quote : Char) (text : List Char) : Option (List Char) :=
  (Text.afterFront? [quote] text).bind (Text.beforeBack? [quote])

def unquote (text : List Char) : List Char :=
  match betweenQuotes? '"' text with
  | some inner => inner
  | none => (betweenQuotes? '\'' text).getD text

/-- A redirected command from the parts before and after the separator. -/
def redirected (command target : List Char) : Except SyntaxFault Line :=
  if '|' ∈ command then .error .pipeWithRedirection
  else
    let commandWords := words command
    let file := unquote (Text.trimChars target)
    if commandWords = [] then .error .missingCommand
    else if file = [] then .error .missingTarget
    else if Text.occursIn redirection target then .error .secondRedirection
    else .ok (redirect commandWords (String.ofList file))

def stage (text : List Char) : Except SyntaxFault (List String) :=
  match words (Text.trimChars text) with
  | [] => .error .emptyStage
  | stageWords => .ok stageWords

def stages : List (List Char) → Except SyntaxFault (List (List String))
  | [] => .ok []
  | text :: rest => do
      let first ← stage text
      let others ← stages rest
      return first :: others

/-- The reading of a line of characters. -/
def parseChars (line : List Char) : Except SyntaxFault Line :=
  match Text.splitOnce? redirection line with
  | some (command, target) => redirected command target
  | none => (stages (Text.splitOn '|' line)).map pipeline

def parse (line : String) : Except SyntaxFault Line :=
  parseChars line.toList

/-- The commands of a line, each with its arguments. -/
def commands : Line → List (List String)
  | pipeline stages => stages
  | redirect command _ => [command]

end Line

end TreeShell
