/-!
# Search patterns

A pattern describes texts: single characters of a class, places with a property, repetitions,
sequences and choices. Classes are ranges of code points in order, with gaps between them.
-/

namespace TreeShell

/-- A class of characters: ranges of code points in increasing order, with gaps between them. -/
abbrev CharClass := List (Nat × Nat)

namespace CharClass

def lastCode : Nat := 0x10ffff

def contains (ranges : CharClass) (c : Char) : Bool :=
  ranges.any fun (first, last) => first ≤ c.toNat && c.toNat ≤ last

/-- Ranges in increasing order of their beginnings with overlapping and adjacent ones joined;
`current` is the range that may still grow. -/
def joinRanges (current : Nat × Nat) : List (Nat × Nat) → CharClass
  | [] => [current]
  | (first, last) :: rest =>
      if first ≤ current.2 + 1 then joinRanges (current.1, max current.2 last) rest
      else current :: joinRanges (first, last) rest

/-- The class of the characters in any of some ranges. -/
def ofRanges (ranges : List (Nat × Nat)) : CharClass :=
  match ranges.mergeSort fun left right =>
      left.1 < right.1 || (left.1 == right.1 && left.2 ≤ right.2) with
  | [] => []
  | first :: rest => joinRanges first rest

/-- The ranges between those of a class, from a code point on. -/
def gapsFrom (start : Nat) : CharClass → CharClass
  | [] => if start ≤ lastCode then [(start, lastCode)] else []
  | (first, last) :: rest =>
      if start < first then (start, first - 1) :: gapsFrom (last + 1) rest
      else gapsFrom (last + 1) rest

def negate (ranges : CharClass) : CharClass :=
  gapsFrom 0 ranges

/-- The letters of a range in the other case. A range that holds small letters counts as a range
of small letters. -/
def foldRange? (range : Nat × Nat) : Option (Nat × Nat) :=
  let (first, last) := range
  if first ≤ 'z'.toNat ∧ 'a'.toNat ≤ last then
    some (max first 'a'.toNat - 32, min last 'z'.toNat - 32)
  else if first ≤ 'Z'.toNat ∧ 'A'.toNat ≤ last then
    some (max first 'A'.toNat + 32, min last 'Z'.toNat + 32)
  else none

/-- The class together with the other case of its letters. -/
def foldCase (ranges : CharClass) : CharClass :=
  ofRanges (ranges ++ ranges.filterMap foldRange?)

def range (first last : Char) : Nat × Nat :=
  (first.toNat, last.toNat)

def named? (name : List Char) : Option (List (Nat × Nat)) :=
  let digits := range '0' '9'
  let capitals := range 'A' 'Z'
  let smalls := range 'a' 'z'
  match String.ofList name with
  | "alnum" => some [digits, capitals, smalls]
  | "alpha" => some [capitals, smalls]
  | "ascii" => some [(0, 0x7f)]
  | "blank" => some [(9, 9), (32, 32)]
  | "cntrl" => some [(0, 0x1f), (0x7f, 0x7f)]
  | "digit" => some [digits]
  | "graph" => some [range '!' '~']
  | "lower" => some [smalls]
  | "print" => some [range ' ' '~']
  | "punct" => some [range '!' '/', range ':' '@', range '[' '\x60', range '\x7b' '~']
  | "space" => some [(9, 13), (32, 32)]
  | "upper" => some [capitals]
  | "word" => some [digits, capitals, range '_' '_', smalls]
  | "xdigit" => some [digits, range 'A' 'F', range 'a' 'f']
  | _ => none

end CharClass

/-- A property of a place between two characters of a text. -/
inductive Place where
  | start
  | finish
  | lineStart
  | lineEnd
  | anyLineStart
  | anyLineEnd
  | wordEdge
  | notWordEdge
  | wordStart
  | wordEnd
  | notAfterWord
  | notBeforeWord
deriving DecidableEq, Repr

/-- A description of texts. Groups are numbered from one in the order of their opening
parentheses; a group without a name has the empty one. -/
inductive Pattern where
  | empty
  | char (c : Char)
  | among (ranges : CharClass)
  | place (place : Place)
  | repeated (least : Nat) (most : Option Nat) (body : Pattern)
  | group (index : Nat) (name : List Char) (body : Pattern)
  | sequence (parts : List Pattern)
  | choice (branches : List Pattern)

namespace Pattern

def inSequence : List Pattern → Pattern
  | [] => empty
  | [part] => part
  | parts => sequence parts

def oneOf : List Pattern → Pattern
  | [branch] => branch
  | branches => choice branches

/-- A repetition; repeating once is no repetition, and repeating never is empty. -/
def repetition (least : Nat) (most : Option Nat) (body : Pattern) : Pattern :=
  if most = some 0 then empty
  else if least = 1 ∧ most = some 1 then body
  else repeated least most body

/-! ### Depth -/

mutual

/-- How deep the parts of a pattern are nested. -/
def depth : Pattern → Nat
  | empty => 0
  | char _ => 0
  | among _ => 0
  | place _ => 0
  | repeated _ _ body => depth body + 1
  | group _ _ body => depth body + 1
  | sequence parts => depthOfAll parts + 1
  | choice branches => depthOfAll branches + 1

def depthOfAll : List Pattern → Nat
  | [] => 0
  | part :: rest => max (depth part) (depthOfAll rest)

end

/-! ### Cost

A pattern is as costly as the matcher with every repetition written out: states in a row, some
with ranges of characters or with ways to go on beside them, and a table of the groups. -/

mutual

/-- Whether a pattern can describe the empty text, judged by its form: a place counts as empty. -/
def canBeEmpty : Pattern → Bool
  | empty => true
  | char _ => false
  | among _ => false
  | place _ => true
  | repeated least _ body => least == 0 || canBeEmpty body
  | group _ _ body => canBeEmpty body
  | sequence parts => canAllBeEmpty parts
  | choice branches => canAnyBeEmpty branches

def canAllBeEmpty : List Pattern → Bool
  | [] => true
  | part :: rest => canBeEmpty part && canAllBeEmpty rest

def canAnyBeEmpty : List Pattern → Bool
  | [] => false
  | branch :: rest => canBeEmpty branch || canAnyBeEmpty rest

end

/-- The bytes that one state of a matcher takes. -/
def stateCost : Nat := 32

/-- The bytes that a state with some ways to go on takes. -/
def forkCost (ways : Nat) : Nat := stateCost + 4 * ways

mutual

/-- The bytes that the states for a pattern take. A repetition without end of what can be empty
has a fork before and a fork behind, so that no round is empty. -/
def cost : Pattern → Nat
  | empty => stateCost
  | char _ => stateCost
  | among ranges => stateCost + 8 * ranges.length
  | place _ => stateCost
  | repeated least most body =>
      match least, most with
      | 0, none =>
          if canBeEmpty body then cost body + forkCost 2 + forkCost 2 + stateCost
          else cost body + forkCost 2
      | least + 1, none => (least + 1) * cost body + forkCost 2
      | 0, some 1 => cost body + forkCost 2 + stateCost
      | least, some most =>
          if least = most then least * cost body
          else
            max stateCost (least * cost body) + stateCost +
              (most - least) * (cost body + forkCost 2)
  | group _ _ body => cost body + 2 * stateCost
  | sequence parts => costOfAll parts
  | choice branches => costOfAll branches + forkCost branches.length + stateCost

def costOfAll : List Pattern → Nat
  | [] => 0
  | part :: rest => cost part + costOfAll rest

end

mutual

/-- The numbers and names of the groups in a pattern. -/
def groups : Pattern → List (Nat × List Char)
  | empty => []
  | char _ => []
  | among _ => []
  | place _ => []
  | repeated _ _ body => groups body
  | group index name body => (index, name) :: groups body
  | sequence parts => groupsOfAll parts
  | choice branches => groupsOfAll branches

def groupsOfAll : List Pattern → List (Nat × List Char)
  | [] => []
  | part :: rest => groups part ++ groupsOfAll rest

end

def nameCost : List Char → Nat
  | [] => 0
  | name => (String.ofList name).utf8ByteSize + 4

/-- The bytes that the table of the groups takes: a row for the whole and one for each number up to
the greatest, and the names. -/
def tableCost (pattern : Pattern) : Nat :=
  let rows := (groups pattern).foldl (fun greatest (index, _) => max greatest index) 0 + 1
  16 * rows + (groups pattern).foldl (fun total (_, name) => total + nameCost name) 0

/-- The bytes that the matcher for a pattern takes. The whole pattern is a group too, and behind it
comes a state for success. -/
def matcherCost (pattern : Pattern) : Nat :=
  cost pattern + 3 * stateCost + tableCost pattern

def depthLimit : Nat := 50

/-- How many bytes the matcher of a pattern may take. -/
def costLimit : Nat := 10 * 1024 * 1024

def withinLimits (pattern : Pattern) : Bool :=
  pattern.depth ≤ depthLimit && pattern.matcherCost ≤ costLimit

end Pattern

end TreeShell
