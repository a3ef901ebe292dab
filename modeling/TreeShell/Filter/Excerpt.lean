import TreeShell.Text.Lines
import TreeShell.Text.Numeral

/-!
# Excerpts

The first or the last lines of a text. The number of lines may stand anywhere among the
arguments, with a sign or without; the sign does not matter.
-/

namespace TreeShell

/-- How many lines are asked for, and of which file. -/
structure Excerpt where
  count : Nat
  file : Option String
deriving DecidableEq, Repr

namespace Excerpt

def defaultCount : Nat := 10

/-- Whether an argument can name a file: it is no option and no number. -/
def namesFile (argument : String) : Bool :=
  argument.toList.head? != some '-' && (Text.signed64? argument).isNone

/-- The excerpt that arguments ask for. The first number among them counts, and the first other
argument that is no option is the file. -/
def ofArguments (arguments : List String) : Excerpt :=
  { count := ((arguments.findSome? Text.signed64?).map Int.natAbs).getD defaultCount
    file := arguments.find? namesFile }

def first (count : Nat) (lines : List String) : List String :=
  lines.take count

def last (count : Nat) (lines : List String) : List String :=
  lines.drop (lines.length - count)

end Excerpt

end TreeShell
