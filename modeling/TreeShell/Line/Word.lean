/-!
# Words of a command

A command is cut into words at blanks and tabs. Quotes of either kind group characters, blanks
among them, and are left out of the word; a quote that is never closed groups everything up to
the end. A pair of quotes around nothing makes no word by itself.
-/

namespace TreeShell.Line

/-- What the reader of words has met so far: the open quote, the characters of the unfinished
word in reverse, and the finished words in reverse. -/
structure WordState where
  quote : Option Char := none
  pending : List Char := []
  finished : List String := []

namespace WordState

/-- The unfinished word counts as finished if it holds anything. -/
def finish (state : WordState) : WordState :=
  match state.pending with
  | [] => state
  | pending =>
      { state with pending := [], finished := String.ofList pending.reverse :: state.finished }

def step (state : WordState) (c : Char) : WordState :=
  match state.quote with
  | some opening =>
      if c = opening then { state with quote := none }
      else { state with pending := c :: state.pending }
  | none =>
      if c = '"' ∨ c = '\'' then { state with quote := some c }
      else if c = ' ' ∨ c = '\t' then state.finish
      else { state with pending := c :: state.pending }

/-- The words in reading order. -/
def words (state : WordState) : List String :=
  state.finish.finished.reverse

end WordState

def words (command : List Char) : List String :=
  (command.foldl WordState.step {}).words

/-- A quote that is not the character itself. -/
def quoteFor (c : Char) : Char :=
  if c = '"' then '\'' else '"'

/-- A word written with every character in quotes, which `words` reads back whatever the word
holds. -/
def quoted (word : String) : List Char :=
  word.toList.flatMap fun c => [quoteFor c, c, quoteFor c]

end TreeShell.Line
