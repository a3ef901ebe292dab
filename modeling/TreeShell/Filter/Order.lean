import TreeShell.Filter.Runs
import TreeShell.Number.Binary64
import TreeShell.Text.Blank
import TreeShell.Text.Numeral

/-!
# Orders of lines

Lines are ordered by their code points, or first by the number they begin with. The number is
taken in double precision: it is a multiple of `2 ^ -1074`, and is kept as that multiple. After
sorting the order may be reversed, and then repetitions may be dropped.
-/

namespace TreeShell

/-- How lines are to be sorted. -/
structure LineOrder where
  numeric : Bool
  reversed : Bool
  distinct : Bool
deriving DecidableEq, Repr

namespace LineOrder

/-- The characters of a numeral: digits and points. -/
def isNumeralChar (c : Char) : Bool :=
  (Text.digit? c).isSome || c == '.'

/-- The value of a decimal numeral without sign, in units of `2 ^ -1074`. It has at least one
digit and at most one point. -/
def magnitude? (numeral : List Char) : Option Nat := do
  let (whole, fraction) := (numeral.span (· != '.'))
  let places := fraction.drop 1
  let value ← Text.natural? (whole ++ places)
  return Binary64.round value (Nat.pow 10 places.length)

/-- The number that a line begins with, after blanks, in units of `2 ^ -1074`; zero if it begins
with none. -/
def leadingNumber (line : String) : Int :=
  match Text.trimStart line.toList with
  | '-' :: rest => -(((magnitude? (rest.takeWhile isNumeralChar)).getD 0 : Nat) : Int)
  | rest => ((magnitude? (rest.takeWhile isNumeralChar)).getD 0 : Nat)

/-- Whether a line may stand before another one. -/
def precedes (order : LineOrder) (left right : String) : Bool :=
  if order.numeric then
    leadingNumber left < leadingNumber right ||
      (leadingNumber left == leadingNumber right && left ≤ right)
  else left ≤ right

def sort (order : LineOrder) (lines : List String) : List String :=
  let sorted := lines.mergeSort order.precedes
  let directed := if order.reversed then sorted.reverse else sorted
  if order.distinct then (Run.ofLines directed).map Run.line else directed

end LineOrder

end TreeShell
