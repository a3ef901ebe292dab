import TreeShell.Pattern
import TreeShell.Text.Blank
import TreeShell.Text.Case
import TreeShell.Text.Class.Table
import TreeShell.Text.CodePoint
import TreeShell.Text.Split

/-!
# Reading patterns

The written form of patterns: `.`, classes in brackets, escapes, anchors, groups with names or
flags, the repetitions `?`, `*`, `+` and counts in braces, and choices separated by `|`. What
looks like another feature of patterns, such as a reference back to a group, is refused, and so
is a pattern beyond the limits. Case is ignored from the beginning; flags can change that.
-/

namespace TreeShell.Pattern

open Text (charOf? hexDigit?)

/-- Switches that a pattern can set for the part of it that follows. -/
structure Flags where
  ignoreCase : Bool := true
  manyLines : Bool := false
  dotMatchesLineFeed : Bool := false
  returnEndsLine : Bool := false
  ignoreSpace : Bool := false
deriving DecidableEq, Repr

/-- The unread part of a pattern, the flags in force, and how many groups have been opened and
which names they have. -/
structure Cursor where
  rest : List Char
  flags : Flags := {}
  groupCount : Nat := 0
  groupNames : List (List Char) := []

/-- A reader takes what it needs from a pattern and hands on the rest, or refuses the pattern. -/
abbrev Reader (α : Type) := Cursor → Option (α × Cursor)

/-- The rest of a pattern behind blanks and comments. A comment reaches from `#` to the end of
its line. -/
def skipIgnorable : (inComment : Bool) → List Char → List Char
  | _, [] => []
  | true, c :: rest => skipIgnorable (c != '\n') rest
  | false, c :: rest =>
      if Text.isBlank c then skipIgnorable false rest
      else if c = '#' then skipIgnorable true rest
      else c :: rest

namespace Cursor

/-- The cursor behind blanks and comments, where they are to be ignored. -/
def skip (cursor : Cursor) : Cursor :=
  if cursor.flags.ignoreSpace then { cursor with rest := skipIgnorable false cursor.rest }
  else cursor

/-- The cursor behind the next character. -/
def bump (cursor : Cursor) : Cursor :=
  { cursor with rest := cursor.rest.tail }

/-- The cursor behind the next character and what is to be ignored after it. -/
def bumpSkip (cursor : Cursor) : Cursor :=
  cursor.bump.skip

/-- The cursor behind a text, if that text comes next. -/
def behind? (cursor : Cursor) (text : String) : Option Cursor :=
  (Text.afterFront? text.toList cursor.rest).map fun rest => { cursor with rest }

/-- The character after the next one, looking past what is to be ignored. Within a comment only
blanks are looked past. -/
def peekSkip (cursor : Cursor) : Option Char :=
  let rest := cursor.rest.tail
  if cursor.flags.ignoreSpace then
    match rest.dropWhile Text.isBlank with
    | '#' :: comment => (comment.dropWhile Text.isBlank).head?
    | next => next.head?
  else rest.head?

end Cursor

/-! ### Characters and escapes -/

/-- A character, in both cases if case is ignored. -/
def charPattern (flags : Flags) (c : Char) : Pattern :=
  let range := CharClass.range c c
  match CharClass.foldRange? range with
  | some folded =>
      if flags.ignoreCase then among (CharClass.ofRanges [range, folded]) else char c
  | none => char c

/-- The characters that have a meaning of their own in some part of a pattern. -/
def isMeta (c : Char) : Bool :=
  ("\\.+*?()|[]\x7b\x7d^$#&-~".toList).contains c

/-- Characters that stand for themselves after a backslash. -/
def isEscapable (c : Char) : Bool :=
  isMeta c ||
    (c.toNat < 0x80 && !c.isAlphanum && c != '<' && c != '>')

/-- A number of hexadecimal digits, `count` of them, after the digits of `value`. -/
def readHexDigits (value : Nat) : (count : Nat) → Reader Nat
  | 0, cursor => some (value, cursor)
  | count + 1, cursor => do
      let digit ← cursor.rest.head?.bind hexDigit?
      readHexDigits (value * 16 + digit) count cursor.bumpSkip

/-- Hexadecimal digits up to a closing brace after the digits of `value`; `steps` bounds their
number. -/
def readHexBraced (value : Nat) : (steps : Nat) → Reader Nat
  | 0, _ => none
  | steps + 1, cursor => do
      let c ← cursor.rest.head?
      if c = '\x7d' then return (value, cursor.bumpSkip)
      let digit ← hexDigit? c
      readHexBraced (value * 16 + digit) steps cursor.bumpSkip

/-- The character of a hexadecimal escape whose letter comes next. -/
def readHex (count : Nat) : Reader Pattern := fun cursor => do
  let cursor := cursor.bumpSkip
  let (code, cursor) ← match cursor.rest with
    | '\x7b' :: _ => do
        let inner := cursor.bumpSkip
        if inner.rest.head? = some '\x7d' then none
        readHexBraced 0 (inner.rest.length + 1) inner
    | _ => readHexDigits 0 count cursor
  let c ← charOf? code
  return (charPattern cursor.flags c, cursor)

/-- The named part of a word edge after its opening brace, if it is one: letters and dashes up to
the closing brace. -/
def readEdgeName (name : List Char) : (steps : Nat) → Reader (List Char)
  | 0, _ => none
  | steps + 1, cursor => do
      let c ← cursor.rest.head?
      if c = '\x7d' then return (name.reverse, cursor.bump)
      if c.isAlpha || c = '-' then readEdgeName (c :: name) steps cursor.bumpSkip
      else none

/-- A word edge after its letter, perhaps of a special kind named in braces. What follows in
braces and does not begin like a name is a count. -/
def readEdge : Reader Pattern := fun cursor =>
  match cursor.rest with
  | '\x7b' :: _ =>
      let inner := cursor.bumpSkip
      match inner.rest with
      | [] => none
      | c :: _ =>
          if c.isAlpha || c = '-' then do
            let (name, after) ← readEdgeName [] (inner.rest.length + 1) inner
            match String.ofList name with
            | "start" => return (place .wordStart, after)
            | "end" => return (place .wordEnd, after)
            | "start-half" => return (place .notAfterWord, after)
            | "end-half" => return (place .notBeforeWord, after)
            | _ => none
          else some (place .wordEdge, cursor)
  | _ => some (place .wordEdge, cursor)

/-- The class of a letter escape: digits, blanks or word characters, or all others. -/
def letterClass (letter : Char) : CharClass :=
  let named (name : String) : CharClass :=
    CharClass.ofRanges ((CharClass.named? name.toList).getD [])
  if letter = 'd' then named "digit"
  else if letter = 'D' then CharClass.negate (named "digit")
  else if letter = 's' then named "space"
  else if letter = 'S' then CharClass.negate (named "space")
  else if letter = 'w' then named "word"
  else CharClass.negate (named "word")

/-- An escape whose backslash comes next. -/
def readEscape : Reader Pattern := fun cursor =>
  let cursor := cursor.bump
  match cursor.rest with
  | [] => none
  | c :: _ =>
      let after := cursor.bump
      let literal (d : Char) : Option (Pattern × Cursor) := some (charPattern after.flags d, after)
      if c.isDigit then none
      else if c = 'x' then readHex 2 cursor
      else if c = 'u' then readHex 4 cursor
      else if c = 'U' then readHex 8 cursor
      else if ['d', 'D', 's', 'S', 'w', 'W'].contains c then some (among (letterClass c), after)
      else if isEscapable c then literal c
      else if c = 'a' then literal '\x07'
      else if c = 'f' then literal '\x0c'
      else if c = 't' then literal '\t'
      else if c = 'n' then literal '\n'
      else if c = 'r' then literal '\r'
      else if c = 'v' then literal '\x0b'
      else if c = 'A' then some (place .start, after)
      else if c = 'z' then some (place .finish, after)
      else if c = 'b' then readEdge after
      else if c = 'B' then some (place .notWordEdge, after)
      else if c = '<' then some (place .wordStart, after)
      else if c = '>' then some (place .wordEnd, after)
      else none

/-- What `.` stands for. -/
def dot (flags : Flags) : Pattern :=
  if flags.dotMatchesLineFeed then among [(0, CharClass.lastCode)]
  else if flags.returnEndsLine then among [(0, 9), (0xb, 0xc), (0xe, CharClass.lastCode)]
  else among [(0, 9), (0xb, CharClass.lastCode)]

/-- What `^` stands for. -/
def anchorStart (flags : Flags) : Pattern :=
  if flags.manyLines then place (if flags.returnEndsLine then .anyLineStart else .lineStart)
  else place .start

/-- What `$` stands for. -/
def anchorEnd (flags : Flags) : Pattern :=
  if flags.manyLines then place (if flags.returnEndsLine then .anyLineEnd else .lineEnd)
  else place .finish

/-- A character, an escape or an anchor. -/
def readPrimitive : Reader Pattern := fun cursor =>
  match cursor.rest with
  | [] => none
  | '\\' :: _ => readEscape cursor
  | '.' :: _ => some (dot cursor.flags, cursor.bump)
  | '^' :: _ => some (anchorStart cursor.flags, cursor.bump)
  | '$' :: _ => some (anchorEnd cursor.flags, cursor.bump)
  | c :: _ => some (charPattern cursor.flags c, cursor.bump)

/-! ### Repetitions -/

/-- Blanks before and digits of a count, after the digits of `value`; `digits` tells how many
digits there were. -/
def readCountDigits (value digits : Nat) : (steps : Nat) → Reader (Nat × Nat)
  | 0, _ => none
  | steps + 1, cursor =>
      match cursor.rest with
      | [] => some ((value, digits), cursor)
      | c :: _ =>
          if '0' ≤ c ∧ c ≤ '9' then
            readCountDigits (value * 10 + (c.toNat - '0'.toNat)) (digits + 1) steps cursor.bumpSkip
          else some ((value, digits), cursor)

/-- A count below `2 ^ 32` with blanks around it. -/
def readCount : Reader Nat := fun cursor => do
  let cursor := { cursor with rest := cursor.rest.dropWhile Text.isBlank }
  let ((value, digits), cursor) ← readCountDigits 0 0 (cursor.rest.length + 1) cursor
  let cursor := { cursor with rest := cursor.rest.dropWhile Text.isBlank }.skip
  if digits = 0 ∨ 1 <<< 32 ≤ value then none else return (value, cursor)

/-- The bounds of a repetition between braces, and the cursor behind the mark for preferring
short matches, if there is one. -/
def readBounds : Reader (Nat × Option Nat) := fun cursor => do
  let cursor := cursor.bumpSkip
  if cursor.rest.isEmpty then none
  let (least, cursor) ← readCount cursor
  let (most, cursor) ← match cursor.rest with
    | ',' :: _ => do
        let cursor := cursor.bumpSkip
        match cursor.rest with
        | [] => none
        | '\x7d' :: _ => pure (none, cursor)
        | _ => do
            let (most, cursor) ← readCount cursor
            pure (some most, cursor)
    | _ => pure (some least, cursor)
  if cursor.rest.head? ≠ some '\x7d' then none
  let cursor := cursor.bumpSkip
  let cursor := if cursor.rest.head? = some '?' then cursor.bump else cursor
  if most.any (· < least) then none
  return ((least, most), cursor)

/-- The bounds of the repetition that the next character begins. -/
def readRepetition : Reader (Nat × Option Nat) := fun cursor =>
  let marked (bounds : Nat × Option Nat) : Option ((Nat × Option Nat) × Cursor) :=
    let cursor := cursor.bump
    some (bounds, if cursor.rest.head? = some '?' then cursor.bump else cursor)
  match cursor.rest with
  | '?' :: _ => marked (0, some 1)
  | '*' :: _ => marked (0, none)
  | '+' :: _ => marked (1, none)
  | _ => readBounds cursor

/-! ### Classes in brackets -/

/-- A class named between `[:` and `:]` whose opening bracket comes next. -/
def readNamedClass : Reader CharClass := fun cursor => do
  let inner ← cursor.behind? "[:"
  let negated := inner.rest.head? = some '^'
  let inner := if negated then inner.bump else inner
  let name := inner.rest.takeWhile (· != ':')
  let after := { inner with rest := inner.rest.drop name.length }
  let after ← after.behind? ":]"
  let ranges := CharClass.ofRanges (← CharClass.named? name)
  return (if negated then CharClass.negate ranges else ranges, after)

/-- A single character or an escape inside brackets. -/
def readClassItem : Reader Pattern := fun cursor =>
  match cursor.rest with
  | [] => none
  | '\\' :: _ => readEscape cursor
  | c :: _ => some (char c, cursor.bump)

/-- The ranges that an item adds to a class. -/
def itemRanges : Pattern → Option CharClass
  | char c => some [CharClass.range c c]
  | among ranges => some ranges
  | _ => none

/-- The code point of an item that is a single character; a letter that counts in both cases is
none. -/
def itemCode : Pattern → Option Nat
  | char c => some c.toNat
  | _ => none

/-- An item or a range of a class. -/
def readClassRange : Reader CharClass := fun cursor => do
  let (item, cursor) ← readClassItem cursor
  let cursor := cursor.skip
  match cursor.rest with
  | [] => none
  | '-' :: _ =>
      if cursor.peekSkip = some ']' ∨ cursor.peekSkip = some '-' then
        return (← itemRanges item, cursor)
      else do
        let cursor := cursor.bumpSkip
        if cursor.rest.isEmpty then none
        let (other, cursor) ← readClassItem cursor
        let first ← itemCode item
        let last ← itemCode other
        if last < first then none else return ([(first, last)], cursor)
  | _ => return (← itemRanges item, cursor)

/-- The items of a class up to its closing bracket, added to `ranges`; `steps` bounds their
number. -/
def readClassItems (ranges : List (Nat × Nat)) : (steps : Nat) → Reader (List (Nat × Nat))
  | 0, _ => none
  | steps + 1, cursor =>
      let cursor := cursor.skip
      match cursor.rest with
      | [] => none
      | '[' :: _ => do
          let (named, cursor) ← readNamedClass cursor
          readClassItems (ranges ++ named) steps cursor
      | ']' :: _ => some (ranges, cursor.bump)
      | '&' :: '&' :: _ => none
      | '-' :: '-' :: _ => none
      | '~' :: '~' :: _ => none
      | _ => do
          let (item, cursor) ← readClassRange cursor
          readClassItems (ranges ++ item) steps cursor

/-- Dashes at the beginning of a class stand for themselves. -/
def readDashes (ranges : List (Nat × Nat)) : (steps : Nat) → Reader (List (Nat × Nat))
  | 0, _ => none
  | steps + 1, cursor =>
      match cursor.rest with
      | [] => none
      | '-' :: _ => readDashes (ranges ++ [CharClass.range '-' '-']) steps cursor.bumpSkip
      | _ => some (ranges, cursor)

/-- A class whose opening bracket comes next. -/
def readClass : Reader Pattern := fun cursor => do
  let cursor := cursor.bumpSkip
  let negated := cursor.rest.head? = some '^'
  let cursor := if negated then cursor.bumpSkip else cursor
  let (dashes, cursor) ← readDashes [] (cursor.rest.length + 1) cursor
  let (start, cursor) :=
    if dashes = [] ∧ cursor.rest.head? = some ']' then
      ([CharClass.range ']' ']'], cursor.bumpSkip)
    else (dashes, cursor)
  let (ranges, after) ← readClassItems start (cursor.rest.length + 1) cursor
  let plain := CharClass.ofRanges ranges
  let folded := if after.flags.ignoreCase then plain.foldCase else plain
  return (among (if negated then folded.negate else folded), after)

/-! ### Groups -/

/-- The flags with the one of a letter switched; the letters for preferring short matches and for
full case are accepted and change nothing here. -/
def Flags.switch? (flags : Flags) (letter : Char) (on : Bool) : Option Flags :=
  if letter = 'i' then some { flags with ignoreCase := on }
  else if letter = 'm' then some { flags with manyLines := on }
  else if letter = 's' then some { flags with dotMatchesLineFeed := on }
  else if letter = 'R' then some { flags with returnEndsLine := on }
  else if letter = 'x' then some { flags with ignoreSpace := on }
  else if letter = 'U' ∨ letter = 'u' then some flags
  else none

/-- Flags up to a colon or a closing parenthesis. No letter may come twice, one dash may come,
and a letter has to follow it. -/
def readFlags (flags : Flags) (seen : List Char) (off afterDash : Bool) :
    List Char → Option (Flags × List Char)
  | [] => none
  | c :: rest =>
      if c = ':' ∨ c = ')' then
        if afterDash then none else some (flags, c :: rest)
      else if c = '-' then
        if off then none else readFlags flags seen true true rest
      else do
        let flags ← flags.switch? c !off
        if seen.contains c then none
        else readFlags flags (c :: seen) off false rest

def beginsName (c : Char) : Bool :=
  c == '_' || Text.inRanges Text.letterRanges c

def continuesName (c : Char) : Bool :=
  beginsName c || c == '.' || c == '[' || c == ']' || Text.inRanges Text.numberRanges c

/-- The name of a group up to its closing mark; no two groups have one name. -/
def readGroupName : Reader (List Char) := fun cursor =>
  let name := cursor.rest.takeWhile (· != '>')
  match name, cursor.rest.drop name.length with
  | first :: others, _ :: rest =>
      if beginsName first && others.all continuesName && !cursor.groupNames.contains name then
        some (name, { cursor with rest, groupNames := name :: cursor.groupNames })
      else none
  | _, _ => none

/-- What an opening parenthesis introduces. -/
inductive Opening where
  | captured (index : Nat) (name : List Char)
  | plain
  | flagsOnly
deriving DecidableEq, Repr

/-- The cursor in the next numbered group, with the number of that group. -/
def Cursor.nextGroup (cursor : Cursor) : Nat × Cursor :=
  (cursor.groupCount + 1, { cursor with groupCount := cursor.groupCount + 1 })

/-- The beginning of a group whose opening parenthesis comes next. -/
def readOpening : Reader Opening := fun cursor =>
  let cursor := cursor.bumpSkip
  let starts (text : String) : Bool := (cursor.behind? text).isSome
  if starts "?=" || starts "?!" || starts "?<=" || starts "?<!" then none
  else
    match cursor.behind? "?P<" <|> cursor.behind? "?<" with
    | some cursor => do
        let (index, cursor) := cursor.nextGroup
        let (name, cursor) ← readGroupName cursor
        return (.captured index name, cursor)
    | none =>
        match cursor.behind? "?" with
        | none =>
            let (index, cursor) := cursor.nextGroup
            some (.captured index [], cursor)
        | some inner => do
            let (flags, rest) ← readFlags inner.flags [] false false inner.rest
            match rest with
            | ')' :: _ =>
                if rest.length = inner.rest.length then none
                else return (.flagsOnly, { inner with flags, rest })
            | _ => return (.plain, { inner with flags, rest := rest.tail })

/-- A choice as far as it has been read: the finished branches and the parts of the last one,
both in reverse. -/
structure Unfinished where
  branches : List Pattern := []
  parts : List Pattern := []

namespace Unfinished

def add (unfinished : Unfinished) (part : Pattern) : Unfinished :=
  { unfinished with parts := part :: unfinished.parts }

def nextBranch (unfinished : Unfinished) : Unfinished :=
  { branches := inSequence unfinished.parts.reverse :: unfinished.branches, parts := [] }

def finish (unfinished : Unfinished) : Pattern :=
  oneOf unfinished.nextBranch.branches.reverse

end Unfinished

/-- A choice up to the end of the pattern or to the parenthesis that closes its group. `level`
counts the groups around it and `steps` bounds the number of parts. -/
def readChoice : (steps level : Nat) → Unfinished → Reader Pattern
  | 0, _, _, _ => none
  | steps + 1, level, unfinished, cursor =>
      let cursor := cursor.skip
      match cursor.rest with
      | [] => some (unfinished.finish, cursor)
      | ')' :: _ => if level = 0 then none else some (unfinished.finish, cursor)
      | '(' :: _ => do
          let flags := cursor.flags
          let (opening, inner) ← readOpening cursor
          if opening = .flagsOnly then readChoice steps level unfinished inner.bump
          else do
            if depthLimit < level + 1 then none
            let (body, after) ← readChoice steps (level + 1) {} inner
            if after.rest.head? ≠ some ')' then none
            let part := match opening with
              | .captured index name => group index name body
              | _ => body
            readChoice steps level (unfinished.add part) { after with flags }.bump
      | '|' :: _ => readChoice steps level unfinished.nextBranch cursor.bump
      | '[' :: _ => do
          let (part, cursor) ← readClass cursor
          readChoice steps level (unfinished.add part) cursor
      | c :: _ =>
          if c = '?' ∨ c = '*' ∨ c = '+' ∨ c = '\x7b' then
            match unfinished.parts with
            | [] => none
            | body :: parts => do
                let ((least, most), cursor) ← readRepetition cursor
                readChoice steps level
                  { unfinished with parts := repetition least most body :: parts } cursor
          else do
            let (part, cursor) ← readPrimitive cursor
            readChoice steps level (unfinished.add part) cursor

/-- The pattern that a text writes, unless it is refused. -/
def read? (text : String) : Option Pattern := do
  let chars := text.toList
  let (pattern, _) ← readChoice (chars.length + 1) 0 {} { rest := chars }
  if pattern.withinLimits then some pattern else none

end TreeShell.Pattern
