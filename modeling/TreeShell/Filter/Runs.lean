/-!
# Runs of equal lines

A list of lines is cut into runs of equal neighbours, each kept as one line with the length of
the run.
-/

namespace TreeShell

/-- A line and how often it stands in a row. -/
structure Run where
  count : Nat
  line : String
deriving DecidableEq, Repr

namespace Run

/-- The runs of a list that begins with a line and goes on with runs. -/
def addLine (line : String) : List Run → List Run
  | [] => [⟨1, line⟩]
  | run :: rest =>
      if line = run.line then ⟨run.count + 1, run.line⟩ :: rest else ⟨1, line⟩ :: run :: rest

def ofLines (lines : List String) : List Run :=
  lines.foldr addLine []

def expand (runs : List Run) : List String :=
  runs.flatMap fun run => List.replicate run.count run.line

theorem expand_addLine (line : String) (runs : List Run) :
    expand (addLine line runs) = line :: expand runs := by
  cases runs with
  | nil => rfl
  | cons run rest =>
      simp only [addLine]
      split
      next same => simp [expand, same, List.replicate_succ]
      next => simp [expand]

theorem expand_ofLines (lines : List String) : expand (ofLines lines) = lines := by
  induction lines with
  | nil => rfl
  | cons line rest ih =>
      rw [show ofLines (line :: rest) = addLine line (ofLines rest) from rfl, expand_addLine, ih]

end Run

end TreeShell
