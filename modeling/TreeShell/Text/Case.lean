import TreeShell.Text.Case.Table

/-!
# Lower-casing

Lower-casing goes character by character, with two exceptions: a capital I with a dot becomes
two characters, and a capital sigma at the end of a word takes its final form.
-/

namespace TreeShell.Text

/-- Whether a code point lies in one of the ranges, which are in increasing order. -/
def inRanges : List (Nat × Nat) → Char → Bool
  | [], _ => false
  | (first, last) :: rest, c =>
      if c.toNat < first then false else c.toNat ≤ last || inRanges rest c

/-- The lower-case form of a character by rows in increasing order. -/
def lowerBy : List (Nat × Nat × Nat × Int) → Char → Char
  | [], c => c
  | (first, last, stride, shift) :: rest, c =>
      if c.toNat < first then c
      else if last < c.toNat then lowerBy rest c
      else if (c.toNat - first) % stride = 0 then Char.ofNat ((c.toNat : Int) + shift).toNat
      else c

def lowerChar (c : Char) : Char :=
  lowerBy Case.lowerRows c

/-- Whether the nearest character that counts for case is a cased one. -/
def nextIsCased (text : List Char) : Bool :=
  match text.dropWhile (inRanges Case.ignorableRanges) with
  | [] => false
  | c :: _ => inRanges Case.casedRanges c

/-- The lower-case form of a text; `before` holds the characters already passed, the nearest
first. -/
def lowerFrom (before : List Char) : List Char → List Char
  | [] => []
  | c :: rest =>
      let lowered :=
        if c = '\u03a3' then
          if nextIsCased before && !nextIsCased rest then ['\u03c2'] else ['\u03c3']
        else if c = '\u0130' then ['i', '\u0307']
        else [lowerChar c]
      lowered ++ lowerFrom (c :: before) rest

def lower (text : List Char) : List Char :=
  lowerFrom [] text

end TreeShell.Text
