/-!
# Cutting texts at separators

A text is cut at every occurrence of one character, or once at the first occurrence of a
longer separator. Joining the pieces of the first kind of cut gives the text back.
-/

namespace TreeShell.Text

/-- The pieces of a text between the occurrences of a separator: one piece more than there are
separators. -/
def splitOn (separator : Char) : List Char → List (List Char)
  | [] => [[]]
  | c :: rest =>
      if c = separator then [] :: splitOn separator rest
      else
        match splitOn separator rest with
        | [] => [[c]]
        | piece :: pieces => (c :: piece) :: pieces

/-- The pieces with one separator between neighbours. -/
def joinWith (separator : Char) : List (List Char) → List Char
  | [] => []
  | [piece] => piece
  | piece :: next :: pieces => piece ++ separator :: joinWith separator (next :: pieces)

theorem splitOn_ne_nil (separator : Char) (text : List Char) : splitOn separator text ≠ [] := by
  cases text with
  | nil => simp [splitOn]
  | cons c rest =>
      simp only [splitOn]
      split
      · simp
      · split <;> simp

theorem joinWith_splitOn (separator : Char) (text : List Char) :
    joinWith separator (splitOn separator text) = text := by
  induction text with
  | nil => rfl
  | cons c rest ih =>
      simp only [splitOn]
      split
      next same =>
        cases pieces : splitOn separator rest with
        | nil => exact absurd pieces (splitOn_ne_nil separator rest)
        | cons piece more => rw [pieces] at ih; simp [joinWith, ih, same]
      next =>
        cases pieces : splitOn separator rest with
        | nil => exact absurd pieces (splitOn_ne_nil separator rest)
        | cons piece more =>
            rw [pieces] at ih
            cases more with
            | nil => simpa [joinWith] using ih
            | cons next more => simpa [joinWith] using ih

/-- What follows `front` in a text that starts with it. -/
def afterFront? : (front text : List Char) → Option (List Char)
  | [], text => some text
  | _ :: _, [] => none
  | c :: front, d :: text => if c = d then afterFront? front text else none

/-- What precedes `back` in a text that ends with it. -/
def beforeBack? (back text : List Char) : Option (List Char) :=
  (afterFront? back.reverse text.reverse).map List.reverse

/-- The parts before and after the first occurrence of a separator. -/
def splitOnce? (separator : List Char) : List Char → Option (List Char × List Char)
  | [] => (afterFront? separator []).map ([], ·)
  | c :: rest =>
      match afterFront? separator (c :: rest) with
      | some after => some ([], after)
      | none => (splitOnce? separator rest).map fun (before, after) => (c :: before, after)

/-- The parts before and after the last occurrence of a character. -/
def splitLast? (separator : Char) : List Char → Option (List Char × List Char)
  | [] => none
  | c :: rest =>
      match splitLast? separator rest with
      | some (before, after) => some (c :: before, after)
      | none => if c = separator then some ([], rest) else none

def occursIn (part : List Char) : (text : List Char) → Bool
  | [] => part.isEmpty
  | c :: rest => (afterFront? part (c :: rest)).isSome || occursIn part rest

def contains (text part : String) : Bool :=
  occursIn part.toList text.toList

def beginsWith (text front : String) : Bool :=
  (afterFront? front.toList text.toList).isSome

end TreeShell.Text
