import TreeShell.Text.Split

/-!
# Paths

A path is the list of names that leads from the root to a place in the tree. It is spelled as
a text in which `/` separates segments, `.` stays and `..` goes up; going up from the root
stays there. A spelling that starts with `/` is read from the root, any other from the path
that is current.
-/

namespace TreeShell

/-- The names from the root down to a place in the tree. -/
abbrev Path := List String

namespace Path

/-- Texts that can name an entry: they are not empty, hold no `/` and do not stand for a step. -/
def IsName (text : String) : Prop :=
  text ≠ "" ∧ text ≠ "." ∧ text ≠ ".." ∧ '/' ∉ text.toList

instance (text : String) : Decidable (IsName text) := by
  unfold IsName; infer_instance

/-- One segment of a spelling followed from a path. -/
def step (path : Path) (segment : String) : Path :=
  if segment = "" ∨ segment = "." then path
  else if segment = ".." then path.dropLast
  else path ++ [segment]

/-- The texts between the slashes of a spelling. -/
def segments (spelling : String) : List String :=
  (Text.splitOn '/' spelling.toList).map String.ofList

/-- The path reached by following a spelling from a path, whatever the spelling starts with. -/
def follow (start : Path) (spelling : String) : Path :=
  (segments spelling).foldl step start

/-- The path that a spelling names while `current` is the current path. -/
def resolve (current : Path) (spelling : String) : Path :=
  if Text.beginsWith spelling "/" then follow [] spelling else follow current spelling

/-- The one spelling of a path that starts with `/` and has no needless segment. -/
def spell (path : Path) : String :=
  "/" ++ String.intercalate "/" path

/-- The one spelling of the place that a spelling names from the root. -/
def normalize (spelling : String) : String :=
  spell (follow [] spelling)

def dropSlashes (spelling : String) : String :=
  String.ofList (spelling.toList.reverse.dropWhile (· = '/')).reverse

/-- The last segment of a spelling, not counting slashes at its end. -/
def basename (spelling : String) : String :=
  match Text.splitLast? '/' (dropSlashes spelling).toList with
  | some (_, name) => String.ofList name
  | none => dropSlashes spelling

/-- The parent of a path and the name of its last segment; the root has neither. -/
def split? (path : Path) : Option (Path × String) :=
  path.getLast?.map fun name => (path.dropLast, name)

/-- The places passed on the way from the root to a path, the root left out and the path itself
last. -/
def wayTo (path : Path) : List Path :=
  (List.range path.length).map fun steps => path.take (steps + 1)

end Path

end TreeShell
