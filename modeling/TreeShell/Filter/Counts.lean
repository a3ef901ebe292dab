import TreeShell.Text.Blank
import TreeShell.Text.Lines

/-!
# Counts of a text

Lines, words and characters of a text.
-/

namespace TreeShell

/-- The counts of a text. -/
structure Counts where
  lines : Nat
  words : Nat
  characters : Nat
deriving DecidableEq, Repr

def Counts.ofText (text : String) : Counts :=
  { lines := (Text.lines text).length
    words := Text.wordCount text
    characters := text.length }

end TreeShell
