import TreeShell.Command.Run

/-!
# Running lines

The stages of a pipeline run one after the other, each with the text of the one before it, up to
the first failure. The text of a redirected command becomes a file in place of what was there.
-/

namespace TreeShell

/-- What is known when a line is run: the time, the environment and the lines submitted so far. -/
structure Context where
  now : Instant
  environment : Environment
  history : List String

/-- A command called in a context with arguments and perhaps with piped text. -/
def Context.invocation (context : Context) (arguments : List String) (piped : Option String) :
    Invocation :=
  { now := context.now
    environment := context.environment
    history := context.history
    arguments
    piped }

namespace Line

/-- Runs one command: the first word is its name, the others are its arguments. -/
def runStage (context : Context) (piped : Option String) : List String → Action Output
  | [] => throw (.syntaxFault .emptyCommand)
  | name :: arguments =>
      match Command.named? name with
      | none => throw (.commandNotFound name)
      | some command => command.run (context.invocation arguments piped)

/-- Runs the stages of a pipeline, the first of them with piped text or without. -/
def runPipeline (context : Context) (piped : Option String) : List (List String) → Action Output
  | [] => return .text ""
  | [words] => runStage context piped words
  | words :: next :: rest => do
      let output ← runStage context piped words
      runPipeline context (some output.piped) (next :: rest)

/-- Runs a command and makes a file of its text. -/
def runRedirect (context : Context) (command : List String) (target : String) : Action Output :=
  fun volume =>
    match runStage context none command volume with
    | .error fault changed => .error (.redirectionFailed fault.message) changed
    | .ok output changed =>
        match Volume.createFile context.now target output.piped changed with
        | .error fault final => .error (.redirectionFailed fault.message) final
        | .ok () final => .ok (.text ("Output written to '" ++ target ++ "'")) final

def run (context : Context) : Line → Action Output
  | pipeline stages => runPipeline context none stages
  | redirect command target => runRedirect context command target

end Line

end TreeShell
