/-!
# Line history

The submitted lines in order, and a cursor for recalling them. The cursor counts back from the
newest line; without a cursor a fresh line is being edited.
-/

namespace TreeShell

/-- Submitted lines, the oldest first, and how far recall has gone back from the newest. -/
structure History where
  entries : List String := []
  stepsBack : Option Nat := none
deriving DecidableEq, Repr

namespace History

/-- Records a line and leaves recall. -/
def push (history : History) (line : String) : History :=
  { entries := history.entries ++ [line], stepsBack := none }

/-- The line that lies `back` lines before the newest. -/
def recalled? (history : History) (back : Nat) : Option String :=
  history.entries.reverse[back]?

/-- Recalls the next older line; the oldest line stays recalled. -/
def previous (history : History) : Option String × History :=
  match history.entries with
  | [] => (none, history)
  | _ :: _ =>
      let back := match history.stepsBack with
        | none => 0
        | some back => min (back + 1) (history.entries.length - 1)
      (history.recalled? back, { history with stepsBack := some back })

/-- Recalls the next newer line; beyond the newest the fresh line comes back. -/
def next (history : History) : Option String × History :=
  match history.stepsBack with
  | some (back + 1) => (history.recalled? back, { history with stepsBack := some back })
  | _ => (none, { history with stepsBack := none })

end History

end TreeShell
