import TreeShell.Command
import TreeShell.Volume

/-!
# Completion

The first word of an input is completed to the name of a command, any later word to an entry of
a directory. Words are separated by single blanks here, and quotes have no meaning.
-/

namespace TreeShell

/-- What an input can be completed to: a whole line if there is one way to go on, or else the
ways there are. -/
inductive Completion where
  | line (text : String)
  | candidates (names : List String)
  | noMatch
deriving DecidableEq, Repr

namespace Completion

/-- The completion for some candidates; `finish` makes the line for a single one. -/
def ofCandidates (finish : String → String) : List String → Completion
  | [] => noMatch
  | [only] => line (finish only)
  | names => candidates names

/-- A text cut behind the last occurrence of a character. -/
def cutBehindLast (separator : Char) (text : List Char) : String × String :=
  match Text.splitLast? separator text with
  | some (before, after) => (String.ofList (before ++ [separator]), String.ofList after)
  | none => ("", String.ofList text)

/-- An entry as a candidate: directories are marked by a slash. -/
def candidate (node : Node) : String :=
  if node.isDirectory then node.name ++ "/" else node.name

/-- The completion of a word that is not the first; `front` is the input before it. -/
def ofEntry (volume : Volume) (front word : String) : Completion :=
  let (directory, start) := cutBehindLast '/' word.toList
  match volume.listDirectory (if directory = "" then none else some directory) with
  | .error _ => noMatch
  | .ok entries =>
      ofCandidates (fun name => front ++ directory ++ name)
        (((entries.map Prod.snd).filter fun node => Text.beginsWith node.name start).map candidate)

end Completion

def Volume.complete (volume : Volume) (input : String) : Completion :=
  let (front, word) := Completion.cutBehindLast ' ' input.toList
  if front = "" then Completion.ofCandidates (· ++ " ") (Command.namesBeginning word)
  else Completion.ofEntry volume front word

end TreeShell
