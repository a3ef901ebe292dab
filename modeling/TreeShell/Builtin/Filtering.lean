import TreeShell.Command.Action
import TreeShell.Filter.Counts
import TreeShell.Filter.Excerpt
import TreeShell.Filter.Order
import TreeShell.Filter.Search

/-!
# Commands that filter text

These commands work on the text that is piped into them, or else on a file that they name, and
answer with a part of its lines or with counts.
-/

namespace TreeShell.Builtin

def firstOperand (invocation : Invocation) : Option String :=
  invocation.operands.head?

/-- Answers lines selected from the text that a command filters. -/
def answerLines (command : Command) (invocation : Invocation) (file : Option String)
    (select : String → List String) : Action Output :=
  Action.observe fun volume =>
    match volume.filterInput command invocation file with
    | .error fault => .error fault
    | .ok text => .ok (.text (Text.unlines (select text)))

def head (invocation : Invocation) : Action Output :=
  let excerpt := Excerpt.ofArguments invocation.arguments
  answerLines .head invocation excerpt.file fun text =>
    Excerpt.first excerpt.count (Text.lines text)

def tail (invocation : Invocation) : Action Output :=
  let excerpt := Excerpt.ofArguments invocation.arguments
  answerLines .tail invocation excerpt.file fun text =>
    Excerpt.last excerpt.count (Text.lines text)

def sortOrder (invocation : Invocation) : LineOrder :=
  { numeric := invocation.hasFlag 'n'
    reversed := invocation.hasFlag 'r'
    distinct := invocation.hasFlag 'u' }

def sort (invocation : Invocation) : Action Output :=
  answerLines .sort invocation (firstOperand invocation) fun text =>
    (sortOrder invocation).sort (Text.lines text)

/-- A run of lines as it is shown, with its length if that is asked for. -/
def runText (counted : Bool) (run : Run) : String :=
  if counted then Text.padLeft 7 (toString run.count) ++ " " ++ run.line else run.line

/-- The lines of a text without those that repeat the line before them. -/
def uniq (invocation : Invocation) : Action Output :=
  answerLines .uniq invocation (firstOperand invocation) fun text =>
    (Run.ofLines (Text.lines text)).map (runText (invocation.hasFlag 'c'))

/-- The counts that the flags of an invocation ask for; without flags all of them. -/
def countColumns (invocation : Invocation) (counts : Counts) : List Nat :=
  let columns := [('l', counts.lines), ('w', counts.words), ('c', counts.characters)]
  match columns.filter fun (flag, _) => invocation.hasFlag flag with
  | [] => columns.map Prod.snd
  | picked => picked.map Prod.snd

/-- Lines, words and characters of a text. The file is named unless the text is piped. -/
def wc (invocation : Invocation) : Action Output :=
  let file := firstOperand invocation
  Action.observe fun volume =>
    match volume.filterInput .wc invocation file with
    | .error fault => .error fault
    | .ok text =>
        let numbers := (countColumns invocation (.ofText text)).map fun number =>
          Text.padLeft 8 (toString number)
        let label := if invocation.piped.isSome then [] else file.toList
        .ok (.text (String.intercalate " " (numbers ++ label)))

/-- The lines found in one of several files, each after the name of its file; a file that cannot
be read gives the line of its failure. -/
def searchFile (search : Search) (volume : Volume) (file : String) : List String :=
  match volume.readFor .grep file with
  | .error fault => [fault.message]
  | .ok content => (search.select content).map fun line => file ++ ":" ++ line

/-- The lines of a text or of files in which a pattern is found. -/
def grep (invocation : Invocation) : Action Output :=
  Action.observe fun volume =>
    match invocation.operands with
    | [] => .error (.missingOperand .grep)
    | pattern :: files =>
        let search : Search :=
          { sought := .ofText pattern
            inverted := invocation.hasFlag 'v'
            numbered := invocation.hasFlag 'n' }
        match files with
        | first :: second :: rest =>
            match invocation.piped with
            | some text => .ok (.text (Text.unlines (search.select text)))
            | none =>
                .ok (.text (Text.unlines
                  ((first :: second :: rest).flatMap (searchFile search volume))))
        | files =>
            match volume.filterInput .grep invocation files.head? with
            | .error fault => .error fault
            | .ok text => .ok (.text (Text.unlines (search.select text)))

end TreeShell.Builtin
