import TreeShell.Text.Split

/-!
# Arguments of the program

The options that can be given when the program is called. An option that takes a value finds it
behind an equals sign, directly behind its letter, or in the next argument, which then must not
look like an option. No option is given twice, and there are no other arguments.

Arguments are taken in order, and the first that asks for help or for the version decides.
-/

namespace TreeShell

/-- What a call of the program states. -/
structure Arguments where
  command : Option String := none
  config : Option String := none
  stateFolder : Option String := none
  ephemeral : Bool := false
  json : Bool := false
deriving DecidableEq, Repr

/-- What a call of the program asks for. -/
inductive Request where
  | start (arguments : Arguments)
  | help
  | version
  | refusal
deriving DecidableEq, Repr

namespace Arguments

/-- An option that takes a value. -/
inductive Valued where
  | command
  | config
  | stateFolder
deriving DecidableEq, Repr

/-- The arguments with an option given a value; none if it has one, or if a file or folder has no
name. -/
def give? (arguments : Arguments) (value : String) : Valued → Option Arguments
  | .command =>
      if arguments.command.isSome then none else some { arguments with command := some value }
  | .config =>
      if arguments.config.isSome ∨ value = "" then none
      else some { arguments with config := some value }
  | .stateFolder =>
      if arguments.stateFolder.isSome ∨ value = "" then none
      else some { arguments with stateFolder := some value }

/-- What comes of one argument: more arguments follow, the next one is a value, or the request is
settled. -/
inductive Step where
  | proceed (arguments : Arguments)
  | await (option : Valued) (arguments : Arguments)
  | settled (request : Request)

def Step.give (arguments : Arguments) (option : Valued) (value : String) : Step :=
  match arguments.give? value option with
  | some given => proceed given
  | none => settled .refusal

/-- An option that takes a value, with the value behind an equals sign if there is one. -/
def Step.valued (arguments : Arguments) (option : Valued) : Option String → Step
  | some value => give arguments option value
  | none => await option arguments

/-- A long option with the text behind its equals sign, if there is one. -/
def longOption (arguments : Arguments) (name : String) (attached : Option String) : Step :=
  match name, attached with
  | "config", value => .valued arguments .config value
  | "state-dir", value => .valued arguments .stateFolder value
  | "ephemeral", none =>
      if arguments.ephemeral then .settled .refusal
      else .proceed { arguments with ephemeral := true }
  | "json", none =>
      if arguments.json then .settled .refusal else .proceed { arguments with json := true }
  | "help", none => .settled .help
  | "version", none => .settled .version
  | _, _ => .settled .refusal

/-- The letters of short options in one argument. -/
def shortOptions (arguments : Arguments) : List Char → Step
  | ['c'] => .await .command arguments
  | 'c' :: '=' :: value => .give arguments .command (String.ofList value)
  | 'c' :: value => .give arguments .command (String.ofList value)
  | 'h' :: _ => .settled .help
  | 'V' :: _ => .settled .version
  | _ => .settled .refusal

/-- One argument where an option is expected. -/
def step (arguments : Arguments) (argument : String) : Step :=
  match argument.toList with
  | '-' :: '-' :: name =>
      match Text.splitOnce? ['='] name with
      | some (name, value) =>
          longOption arguments (String.ofList name) (some (String.ofList value))
      | none => longOption arguments (String.ofList name) none
  | '-' :: c :: letters => shortOptions arguments (c :: letters)
  | _ => .settled .refusal

/-- Whether an argument can be the value of the option before it. -/
def isValue (argument : String) : Bool :=
  match argument.toList with
  | '-' :: _ :: _ => false
  | _ => true

/-- What arguments ask for, given those before them. The mark `--` ends the options, and nothing
may follow it. -/
def readFrom (arguments : Arguments) : List String → Request
  | [] => .start arguments
  | "--" :: rest => if rest = [] then .start arguments else .refusal
  | argument :: rest =>
      match step arguments argument with
      | .settled request => request
      | .proceed arguments => readFrom arguments rest
      | .await option arguments =>
          match rest with
          | [] => .refusal
          | value :: rest =>
              if isValue value then
                match arguments.give? value option with
                | some given => readFrom given rest
                | none => .refusal
              else .refusal

def read (arguments : List String) : Request :=
  readFrom {} arguments

end Arguments

end TreeShell
