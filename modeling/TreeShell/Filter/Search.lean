import TreeShell.Pattern.Match
import TreeShell.Pattern.Reader
import TreeShell.Text.Lines

/-!
# Searching lines

A search selects the lines of a text in which a pattern matches, or those in which it does not.
A text that cannot be read as a pattern is searched for as it is, without regard to case.
-/

namespace TreeShell

/-- What a line is searched for. -/
inductive Sought where
  | pattern (pattern : Pattern)
  | literal (lowered : List Char)

namespace Sought

/-- What a text searches for: the pattern it writes, or else the text itself. -/
def ofText (text : String) : Sought :=
  match Pattern.read? text with
  | some found => .pattern found
  | none => .literal (Text.lower text.toList)

def foundIn (line : String) : Sought → Bool
  | pattern sought => sought.matchesIn line.toList
  | literal lowered => Text.occursIn lowered (Text.lower line.toList)

end Sought

/-- A search of a text. -/
structure Search where
  sought : Sought
  inverted : Bool
  numbered : Bool

namespace Search

def selects (search : Search) (line : String) : Bool :=
  search.sought.foundIn line != search.inverted

/-- A selected line as it is shown, given how many lines stand before it. -/
def shown (search : Search) (line : String) (before : Nat) : String :=
  if search.numbered then toString (before + 1) ++ ":" ++ line else line

/-- The selected lines of a text as they are shown. -/
def select (search : Search) (text : String) : List String :=
  ((Text.lines text).zipIdx.filter fun (line, _) => search.selects line).map fun (line, before) =>
    search.shown line before

end Search

end TreeShell
