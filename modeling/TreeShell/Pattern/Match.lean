import TreeShell.Pattern

/-!
# Searching with a pattern

A set of places in a text is a number: the place with `i` characters before it belongs to the set
if the binary digit with the weight `2 ^ i` is one, so that union, intersection and the step behind
a character work on all places at once.

A pattern is first laid out along the text: each of its characters becomes the set of the places at
which such a character stands. What is laid out carries a set of places to the set of places that
can be reached from them by a text the pattern describes. A text contains a match if some place can
be reached from the set of all places.
-/

namespace TreeShell

/-- The characters before and after a place in a text. -/
structure Surroundings where
  before : Option Char
  after : Option Char
deriving DecidableEq, Repr

namespace Surroundings

/-- Letters, digits and the underscore make words. -/
def isWordChar (c : Char) : Bool :=
  ('a' ≤ c && c ≤ 'z') || ('A' ≤ c && c ≤ 'Z') || ('0' ≤ c && c ≤ '9') || c == '_'

def afterWord (around : Surroundings) : Bool := around.before.any isWordChar

def beforeWord (around : Surroundings) : Bool := around.after.any isWordChar

/-- Whether a place with these surroundings has a property. -/
def satisfies (around : Surroundings) : Place → Bool
  | .start => around.before.isNone
  | .finish => around.after.isNone
  | .lineStart => around.before.isNone || around.before == some '\n'
  | .lineEnd => around.after.isNone || around.after == some '\n'
  | .anyLineStart =>
      around.before.isNone || around.before == some '\n' ||
        (around.before == some '\r' && around.after != some '\n')
  | .anyLineEnd =>
      around.after.isNone || around.after == some '\r' ||
        (around.after == some '\n' && around.before != some '\r')
  | .wordEdge => around.afterWord != around.beforeWord
  | .notWordEdge => around.afterWord == around.beforeWord
  | .wordStart => !around.afterWord && around.beforeWord
  | .wordEnd => around.afterWord && !around.beforeWord
  | .notAfterWord => !around.afterWord
  | .notBeforeWord => !around.beforeWord

/-- The surroundings of all places of a text that follows a character. -/
def ofText (before : Option Char) : List Char → List Surroundings
  | [] => [⟨before, none⟩]
  | c :: rest => ⟨before, some c⟩ :: ofText (some c) rest

end Surroundings

/-- A set of places in a text, one binary digit for each place. -/
abbrev Places := Nat

namespace Places

/-- All places of a text of some length: one more than there are characters. -/
def all (length : Nat) : Places :=
  1 <<< (length + 1) - 1

/-- The places that truth values pick out, the first value for the first place. -/
def ofFlags : List Bool → Places
  | [] => 0
  | flag :: rest => flag.toNat + 2 * ofFlags rest

/-- The weight of the last place of a block. -/
def lastWeight : Nat := 1 <<< 31

/-- The items that have a property, as numbers of up to 32 binary digits each; `sum` is what is
known of the first number, in which the next item has the given weight. -/
def blocks {α : Type} (property : α → Bool) : (weight sum : Nat) → List α → List Nat
  | _, sum, [] => [sum]
  | weight, sum, item :: rest =>
      let sum := if property item then sum + weight else sum
      if weight = lastWeight then sum :: blocks property 1 0 rest
      else blocks property (2 * weight) sum rest

def joinBlocks (blocks : List Nat) : Places :=
  blocks.foldr (fun block later => block + 2 * lastWeight * later) 0

/-- The places whose items have a property; every place has one item, in order. -/
def having {α : Type} (property : α → Bool) (items : List α) : Places :=
  joinBlocks (blocks property 1 0 items)

theorem joinBlocks_blocks {α : Type} (property : α → Bool) (items : List α) (digit sum : Nat)
    (inBlock : digit < 32) :
    joinBlocks (blocks property (1 <<< digit) sum items) =
      sum + 1 <<< digit * ofFlags (items.map property) := by
  induction items generalizing digit sum with
  | nil => simp [blocks, joinBlocks, ofFlags]
  | cons item rest ih =>
      have added : (if property item then sum + 1 <<< digit else sum) =
          sum + 1 <<< digit * (property item).toNat := by
        cases property item <;> simp
      simp only [blocks, List.map_cons, ofFlags, added]
      split
      next last =>
        have first := ih 0 0 (by omega)
        simp only [joinBlocks, Nat.shiftLeft_zero, Nat.one_mul, Nat.zero_add] at first
        simp only [joinBlocks, List.foldr_cons, first, last]
        rw [Nat.mul_add, Nat.add_assoc, ← Nat.mul_assoc, Nat.mul_comm lastWeight 2]
      next notLast =>
        have next : digit + 1 < 32 := by
          have : digit ≠ 31 := fun same => notLast (by rw [same, lastWeight])
          omega
        have later := ih (digit + 1) (sum + 1 <<< digit * (property item).toNat) next
        rw [Nat.shiftLeft_succ] at later
        rw [later, Nat.mul_add, Nat.add_assoc, Nat.mul_comm 2 (1 <<< digit), Nat.mul_assoc]

/-- The division into blocks makes no difference. -/
theorem having_eq_ofFlags {α : Type} (property : α → Bool) (items : List α) :
    having property items = ofFlags (items.map property) := by
  simpa [having] using joinBlocks_blocks property items 0 0 (by omega)

/-- The places behind one character, given the places at which it may stand. -/
def afterChar (kind places : Places) : Places :=
  (places &&& kind) <<< 1

/-- The places behind any number of characters, given the places at which they may stand. A round
knows from which places `stride` such characters follow, and doubles the number of characters that
the rounds before it could pass. -/
def afterChars : (rounds : Nat) → (stride : Nat) → (kind places : Places) → Places
  | 0, _, _, places => places
  | rounds + 1, stride, kind, places =>
      afterChars rounds (2 * stride) (kind &&& (kind >>> stride))
        (places ||| (places &&& kind) <<< stride)

/-- The places reached by exactly `count` steps. A step that leads nowhere new changes nothing
when it is repeated. -/
def iterate (step : Places → Places) : (count : Nat) → Places → Places
  | 0, places => places
  | count + 1, places =>
      let next := step places
      if next = places then places else iterate step count next

/-- The places reached by at most `count` steps. -/
def reach (step : Places → Places) : (count : Nat) → Places → Places
  | 0, places => places
  | count + 1, places =>
      let more := places ||| step places
      if more = places then places else reach step count more

end Places

/-- A pattern laid out along a text: `step` goes behind a character, given where it may stand, and
`gate` keeps to the places with a property. Such sets are worked out when they are first needed. -/
inductive Route where
  | stay
  | step (kind : Thunk Places)
  | gate (property : Thunk Places)
  | repeated (least : Nat) (most : Option Nat) (body : Route)
  | sequence (parts : List Route)
  | choice (branches : List Route)

namespace Route

/-- Where the character may stand that a route consists of. -/
def kind? : Route → Option (Thunk Places)
  | step kind => some kind
  | _ => none

/-- A choice between routes; between single characters it is a character again. -/
def oneOf (branches : List Route) : Route :=
  match branches.mapM kind? with
  | some kinds => step (Thunk.mk fun _ => (kinds.map Thunk.get).foldl (· ||| ·) 0)
  | none => choice branches

mutual

/-- The places reached from a set of places along a route through a text of some length. -/
def carry (length : Nat) : Route → Places → Places
  | stay, places => places
  | step kind, places => if places = 0 then 0 else Places.afterChar kind.get places
  | gate property, places => if places = 0 then 0 else places &&& property.get
  | repeated least most body, places =>
      let start := Places.iterate (carry length body) least places
      match most, body.kind? with
      | none, some kind => Places.afterChars (length.log2 + 1) 1 kind.get start
      | none, none => Places.reach (carry length body) (length + 1) start
      | some most, _ => Places.reach (carry length body) (most - least) start
  | sequence parts, places => carryAll length parts places
  | choice branches, places => carryAny length branches places

/-- The places reached along routes one after the other. -/
def carryAll (length : Nat) : List Route → Places → Places
  | [], places => places
  | part :: rest, places => carryAll length rest (carry length part places)

/-- The places reached along any of some routes. -/
def carryAny (length : Nat) : List Route → Places → Places
  | [], _ => 0
  | branch :: rest, places => carry length branch places ||| carryAny length rest places

end

end Route

namespace Pattern

mutual

/-- A pattern laid out along a text. -/
def along (text : List Char) : Pattern → Route
  | empty => .stay
  | char c => .step (Thunk.mk fun _ => Places.having (· == c) text)
  | among ranges => .step (Thunk.mk fun _ => Places.having ranges.contains text)
  | place property =>
      .gate (Thunk.mk fun _ =>
        Places.having (Surroundings.satisfies · property) (Surroundings.ofText none text))
  | repeated least most body => .repeated least most (along text body)
  | group _ _ body => along text body
  | sequence parts => .sequence (allAlong text parts)
  | choice branches => .oneOf (allAlong text branches)

/-- Patterns laid out along a text. -/
def allAlong (text : List Char) : List Pattern → List Route
  | [] => []
  | part :: rest => along text part :: allAlong text rest

end

/-- Whether a pattern describes some part of a text. -/
def matchesIn (pattern : Pattern) (text : List Char) : Bool :=
  (pattern.along text).carry text.length (Places.all text.length) != 0

end Pattern

end TreeShell
