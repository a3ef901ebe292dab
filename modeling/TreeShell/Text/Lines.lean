import TreeShell.Text.Split

/-!
# Lines

A text is a sequence of lines ended by a line feed, or by a carriage return and a line feed.
The last line need not be ended, and then keeps a carriage return at its end.
-/

namespace TreeShell.Text

/-- A line that was ended by a line feed, without the carriage return before it. -/
def dropReturn (line : List Char) : List Char :=
  (beforeBack? ['\r'] line).getD line

/-- The lines of a text cut at its line feeds: all pieces but the last were ended, and the last
is a line only if it holds something. -/
def linesOfPieces : List (List Char) → List (List Char)
  | [] => []
  | [last] => if last = [] then [] else [last]
  | line :: next :: pieces => dropReturn line :: linesOfPieces (next :: pieces)

def lines (text : String) : List String :=
  (linesOfPieces (splitOn '\n' text.toList)).map String.ofList

/-- The lines with a line feed between neighbours and none at the end. -/
def unlines (lines : List String) : String :=
  String.intercalate "\n" lines

end TreeShell.Text
