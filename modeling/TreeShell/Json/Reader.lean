import TreeShell.Json.Value
import TreeShell.Text.CodePoint
import TreeShell.Text.Numeral

/-!
# Reading JSON

A reader takes what it needs from the front of a text and hands on the rest. A text that is not
JSON has its first fault reported with the line and the column, counted in bytes, up to which
it had been read. Arrays and objects may be nested at most 127 deep.
-/

namespace TreeShell.Json

open Text (digit? hexDigit?)

/-- What is wrong with a text that is not JSON. -/
inductive Problem where
  | endInValue
  | endInObject
  | endInList
  | endInString
  | expectedValue
  | expectedIdent
  | expectedColon
  | expectedListEnd
  | expectedObjectEnd
  | keyNotString
  | trailingComma
  | trailingCharacters
  | invalidNumber
  | numberOutOfRange
  | invalidEscape
  | unpairedSurrogate
  | endOfHexEscape
  | controlCharacter
  | tooDeep
deriving DecidableEq, Repr

def Problem.message : Problem → String
  | endInValue => "EOF while parsing a value"
  | endInObject => "EOF while parsing an object"
  | endInList => "EOF while parsing a list"
  | endInString => "EOF while parsing a string"
  | expectedValue => "expected value"
  | expectedIdent => "expected ident"
  | expectedColon => "expected `:`"
  | expectedListEnd => "expected `,` or `]`"
  | expectedObjectEnd => "expected `,` or `\x7d`"
  | keyNotString => "key must be a string"
  | trailingComma => "trailing comma"
  | trailingCharacters => "trailing characters"
  | invalidNumber => "invalid number"
  | numberOutOfRange => "number out of range"
  | invalidEscape => "invalid escape"
  | unpairedSurrogate => "lone leading surrogate in hex escape"
  | endOfHexEscape => "unexpected end of hex escape"
  | controlCharacter => "control character (\\u0000-\\u001F) found while parsing a string"
  | tooDeep => "recursion limit exceeded"

/-- A problem, the text that was still unread when it was met, and how many bytes of that text
the reported position covers. -/
structure Fault where
  problem : Problem
  rest : List Char
  ahead : Nat

/-- A reader takes what it needs from the front of a text and hands on the rest. -/
abbrev Reader (α : Type) := List Char → Except Fault (α × List Char)

/-- A problem found after reading up to `rest`. -/
def failAfter {α : Type} (problem : Problem) (rest : List Char) : Except Fault α :=
  .error { problem, rest, ahead := 0 }

/-- A problem seen in the next byte of `rest`. -/
def failAt {α : Type} (problem : Problem) (rest : List Char) : Except Fault α :=
  .error { problem, rest, ahead := 1 }

/-- The blanks that may stand between the parts of a JSON text. -/
def isSpace (c : Char) : Bool :=
  c == ' ' || c == '\n' || c == '\t' || c == '\r'

def skipSpace (text : List Char) : List Char :=
  text.dropWhile isSpace

/-- The rest of a literal name whose first character has been read, standing for `value`. -/
def readName (value : Json) : (name : List Char) → Reader Json
  | [], text => .ok (value, text)
  | _ :: _, [] => failAfter .endInValue []
  | expected :: name, c :: rest =>
      if c = expected then readName value name rest else failAt .expectedIdent (c :: rest)

/-! ### Numbers -/

def skipDigits (text : List Char) : List Char :=
  text.dropWhile fun c => (digit? c).isSome

/-- The nearest power of ten in double precision. -/
def power (exponent : Nat) : Nat :=
  Binary64.round (Nat.pow 10 exponent) 1

/-- The magnitude `digits · 10 ^ exponent` as it is computed from the nearest magnitude of the
digits by multiplications and divisions with powers of ten up to 308; none if it is infinite. -/
def scale : (steps : Nat) → (units : Nat) → (exponent : Int) → Option Nat
  | 0, units, _ => some units
  | steps + 1, units, exponent =>
      if exponent.natAbs ≤ 308 then
        if 0 ≤ exponent then
          let product := Binary64.mul units (power exponent.natAbs)
          if product < Binary64.infinity then some product else none
        else some (Binary64.div units (power exponent.natAbs))
      else if units = 0 then some 0
      else if 0 ≤ exponent then none
      else scale steps (Binary64.div units (power 308)) (exponent + 308)

/-- The number with these digits and this power of ten, written up to `rest`. -/
def finishFloat (isNegative : Bool) (digits : Nat) (exponent : Int) : Reader Number := fun rest =>
  match scale 4 (Binary64.round digits 1) exponent with
  | some units => .ok (.float isNegative units, rest)
  | none => failAfter .numberOutOfRange rest

/-- An exponent kept within 32 bits. -/
def clampExponent (exponent : Int) : Int :=
  max (-2147483648) (min 2147483647 exponent)

/-- The digits of an exponent after `value`, and whether they stayed below `2 ^ 31`. -/
def readExponentDigits (value : Nat) : List Char → Nat × Bool × List Char
  | [] => (value, true, [])
  | c :: rest =>
      match digit? c with
      | none => (value, true, c :: rest)
      | some digit =>
          if value * 10 + digit < 1 <<< 31 then readExponentDigits (value * 10 + digit) rest
          else (value, false, rest)

/-- The exponent after its mark, for a number with digits and a power of ten so far. -/
def readExponent (isNegative : Bool) (digits : Nat) (start : Int) : Reader Number := fun text =>
  let (down, text) := match text with
    | '+' :: rest => (false, rest)
    | '-' :: rest => (true, rest)
    | _ => (false, text)
  match text with
  | [] => failAfter .endInValue []
  | c :: rest =>
      match digit? c with
      | none => failAt .invalidNumber (c :: rest)
      | some first =>
          match readExponentDigits first rest with
          | (value, true, rest) =>
              finishFloat isNegative digits
                (clampExponent (if down then start - value else start + value)) rest
          | (_, false, rest) =>
              if digits ≠ 0 ∧ !down then failAfter .numberOutOfRange rest
              else .ok (.float isNegative 0, skipDigits rest)

/-- What may follow the digits of a number with a fraction or with too many digits. -/
def readAfterDigits (isNegative : Bool) (digits : Nat) (exponent : Int) : Reader Number
  | 'e' :: rest => readExponent isNegative digits exponent rest
  | 'E' :: rest => readExponent isNegative digits exponent rest
  | rest => finishFloat isNegative digits exponent rest

/-- Digits read on as long as their number stays below `2 ^ 64`: the number, how many digits
were read, and the rest. -/
def readDigits (value count : Nat) : List Char → Nat × Nat × List Char
  | [] => (value, count, [])
  | c :: rest =>
      match digit? c with
      | none => (value, count, c :: rest)
      | some digit =>
          if value * 10 + digit < 1 <<< 64 then readDigits (value * 10 + digit) (count + 1) rest
          else (value, count, c :: rest)

/-- The fraction after its point. -/
def readFraction (isNegative : Bool) (digits : Nat) (exponent : Int) : Reader Number := fun text =>
  let (value, count, rest) := readDigits digits 0 text
  let overflowed := match rest with
    | c :: _ => (digit? c).isSome
    | [] => false
  if count = 0 ∧ !overflowed then
    match rest with
    | [] => failAt .endInValue []
    | _ :: _ => failAt .invalidNumber rest
  else readAfterDigits isNegative value (exponent - count) (skipDigits rest)

/-- A whole number of 64 bits, or the part of a longer number that follows its digits. -/
def readAfterWhole (isNegative : Bool) (value : Nat) : Reader Number
  | '.' :: rest => readFraction isNegative value 0 rest
  | 'e' :: rest => readExponent isNegative value 0 rest
  | 'E' :: rest => readExponent isNegative value 0 rest
  | rest =>
      if !isNegative then .ok (.natural value, rest)
      else if 0 < value ∧ value ≤ 1 <<< 63 then .ok (.negative value, rest)
      else .ok (.float true (Binary64.round value 1), rest)

/-- A number after its sign. -/
def readNumber (isNegative : Bool) : Reader Number
  | [] => failAfter .endInValue []
  | '0' :: rest =>
      match rest with
      | c :: _ =>
          if (digit? c).isSome then failAt .invalidNumber rest else readAfterWhole isNegative 0 rest
      | [] => readAfterWhole isNegative 0 rest
  | c :: text =>
      match digit? c with
      | none => failAt .invalidNumber (c :: text)
      | some first =>
          let (value, _, rest) := readDigits first 1 text
          let dropped := (rest.takeWhile fun c => (digit? c).isSome).length
          if dropped = 0 then readAfterWhole isNegative value rest
          else
            match skipDigits rest with
            | '.' :: fraction => readFraction isNegative value dropped fraction
            | after => readAfterDigits isNegative value dropped after

/-! ### Strings -/

/-- The number written by four hexadecimal digits. A shorter rest of the text is an unfinished
string; of other characters the report covers four bytes. -/
def readHex (text : List Char) : Except Fault (Nat × List Char) :=
  match text with
  | a :: b :: c :: d :: rest =>
      match hexDigit? a, hexDigit? b, hexDigit? c, hexDigit? d with
      | some a, some b, some c, some d => .ok (((a * 16 + b) * 16 + c) * 16 + d, rest)
      | _, _, _, _ => .error { problem := .invalidEscape, rest := text, ahead := 4 }
  | _ =>
      if (String.ofList text).utf8ByteSize < 4 then failAfter .endInString []
      else .error { problem := .invalidEscape, rest := text, ahead := 4 }

/-- The character of a hexadecimal escape after its mark; two escapes may form a surrogate
pair. -/
def readUnicode : Reader Char := fun text => do
  let (high, rest) ← readHex text
  if 0xdc00 ≤ high ∧ high ≤ 0xdfff then failAfter .unpairedSurrogate rest
  else if high < 0xd800 ∨ 0xdbff < high then return (Char.ofNat high, rest)
  else
    match rest with
    | [] => failAfter .endInString []
    | '\\' :: rest =>
        match rest with
        | [] => failAfter .endInString []
        | 'u' :: rest => do
            let (low, rest) ← readHex rest
            if low < 0xdc00 ∨ 0xdfff < low then failAfter .unpairedSurrogate rest
            else return (Char.ofNat ((high - 0xd800) * 0x400 + (low - 0xdc00) + 0x10000), rest)
        | _ :: _ => failAt .endOfHexEscape rest
    | _ :: _ => failAt .endOfHexEscape rest

/-- The character of an escape after its backslash. -/
def readEscape : Reader Char
  | [] => failAfter .endInString []
  | c :: rest =>
      if c = '"' then .ok ('"', rest)
      else if c = '\\' then .ok ('\\', rest)
      else if c = '/' then .ok ('/', rest)
      else if c = 'b' then .ok ('\x08', rest)
      else if c = 'f' then .ok ('\x0c', rest)
      else if c = 'n' then .ok ('\n', rest)
      else if c = 'r' then .ok ('\r', rest)
      else if c = 't' then .ok ('\t', rest)
      else if c = 'u' then readUnicode rest
      else failAt .invalidEscape (c :: rest)

/-- The characters of a string up to its closing quote; `steps` bounds the number of
characters. -/
def readChars : (steps : Nat) → Reader (List Char)
  | 0, text => failAfter .endInString text
  | _ + 1, [] => failAfter .endInString []
  | steps + 1, c :: rest =>
      if c = '"' then .ok ([], rest)
      else if c = '\\' then do
        let (first, rest) ← readEscape rest
        let (others, rest) ← readChars steps rest
        return (first :: others, rest)
      else if c.toNat < 0x20 then failAfter .controlCharacter rest
      else do
        let (others, rest) ← readChars steps rest
        return (c :: others, rest)

/-- A string after its opening quote, of fewer characters than `limit`. -/
def readString (limit : Nat) : Reader String := fun text => do
  let (chars, rest) ← readChars limit text
  return (String.ofList chars, rest)

/-! ### Arrays and objects

The characters of a string, the elements of an array and the members of an object are fewer than
the `limit` of their reader, which only has to exceed the length of the whole text. -/

/-- One item and those after it, given a reader for each. -/
def readCons {α : Type} (readFirst : Reader α) (readOthers : Reader (List α)) :
    Reader (List α) := fun text => do
  let (first, rest) ← readFirst text
  let (others, rest) ← readOthers rest
  return (first :: others, rest)

/-- The elements of an array and its end, given a reader for its values; `steps` bounds their
number. -/
def readElements (readValue : Reader Json) : (steps : Nat) → (isFirst : Bool) → Reader (List Json)
  | 0, _, text => failAt .endInList text
  | steps + 1, isFirst, text =>
      match skipSpace text with
      | [] => failAt .endInList []
      | c :: rest =>
          if c = ']' then .ok ([], rest)
          else if isFirst then readCons readValue (readElements readValue steps false) (c :: rest)
          else if c = ',' then
            match skipSpace rest with
            | [] => failAt .endInValue []
            | d :: rest =>
                if d = ']' then failAt .trailingComma (d :: rest)
                else readCons readValue (readElements readValue steps false) (d :: rest)
          else failAt .expectedListEnd (c :: rest)

/-- A member of an object after the opening quote of its key, given a reader for its value. -/
def readMember (limit : Nat) (readValue : Reader Json) : Reader (String × Json) := fun text => do
  let (key, rest) ← readString limit text
  match skipSpace rest with
  | [] => failAt .endInObject []
  | c :: rest =>
      if c = ':' then do
        let (value, rest) ← readValue rest
        return ((key, value), rest)
      else failAt .expectedColon (c :: rest)

/-- The members of an object and its end, given a reader for their values; `steps` bounds their
number. -/
def readMembers (limit : Nat) (readValue : Reader Json) :
    (steps : Nat) → (isFirst : Bool) → Reader (List (String × Json))
  | 0, _, text => failAt .endInObject text
  | steps + 1, isFirst, text =>
      match skipSpace text with
      | [] => failAt .endInObject []
      | c :: rest =>
          if c = '\x7d' then .ok ([], rest)
          else if isFirst then
            if c = '"' then
              readCons (readMember limit readValue) (readMembers limit readValue steps false) rest
            else failAt .keyNotString (c :: rest)
          else if c = ',' then
            match skipSpace rest with
            | [] => failAt .endInValue []
            | d :: rest =>
                if d = '"' then
                  readCons (readMember limit readValue) (readMembers limit readValue steps false)
                    rest
                else if d = '\x7d' then failAt .trailingComma (d :: rest)
                else failAt .keyNotString (d :: rest)
          else failAt .expectedObjectEnd (c :: rest)

/-- A value, given a reader for the values nested in it, or none if nesting is exhausted. -/
def readWith (limit : Nat) (nested : Option (Reader Json)) : Reader Json := fun text =>
  match skipSpace text with
  | [] => failAt .endInValue []
  | c :: rest =>
      if c = 'n' then readName null "ull".toList rest
      else if c = 't' then readName (bool true) "rue".toList rest
      else if c = 'f' then readName (bool false) "alse".toList rest
      else if c = '"' then do
        let (value, rest) ← readString limit rest
        return (string value, rest)
      else if c = '-' then do
        let (value, rest) ← readNumber true rest
        return (number value, rest)
      else if (digit? c).isSome then do
        let (value, rest) ← readNumber false (c :: rest)
        return (number value, rest)
      else if c = '[' then
        match nested with
        | none => failAt .tooDeep (c :: rest)
        | some readValue => do
            let (elements, rest) ← readElements readValue limit true rest
            return (array elements, rest)
      else if c = '\x7b' then
        match nested with
        | none => failAt .tooDeep (c :: rest)
        | some readValue => do
            let (members, rest) ← readMembers limit readValue limit true rest
            return (object (Entries.ofList members), rest)
      else failAt .expectedValue (c :: rest)

/-- A value in which arrays and objects are nested at most `depth` deep. -/
def readValue (limit : Nat) : (depth : Nat) → Reader Json
  | 0 => readWith limit none
  | depth + 1 => readWith limit (some (readValue limit depth))

/-- How deep arrays and objects may be nested. -/
def depthLimit : Nat := 127

/-- A whole text: one value with blanks around it. -/
def readText (text : List Char) : Except Fault Json := do
  let (value, rest) ← readValue (text.length + 1) depthLimit text
  match skipSpace rest with
  | [] => return value
  | c :: rest => failAt .trailingCharacters (c :: rest)

/-! ### Positions -/

/-- A place in a text: the line from 1 on, and the bytes of the line before the place. -/
structure Position where
  line : Nat
  column : Nat
deriving DecidableEq, Repr

/-- The place that lies a number of bytes further in a text. -/
def Position.advance (position : Position) : (bytes : Nat) → List Char → Position
  | 0, _ => position
  | _, [] => position
  | bytes, c :: rest =>
      if c.utf8Size ≤ bytes then
        let next : Position :=
          if c = '\n' then ⟨position.line + 1, 0⟩
          else ⟨position.line, position.column + c.utf8Size⟩
        next.advance (bytes - c.utf8Size) rest
      else ⟨position.line, position.column + bytes⟩

/-- The place of a fault in the text in which it was met. -/
def Fault.position (fault : Fault) (text : List Char) : Position :=
  let size := (String.ofList text).utf8ByteSize
  let unread := (String.ofList fault.rest).utf8ByteSize
  Position.advance ⟨1, 0⟩ (size - unread + fault.ahead) text

/-- A problem and its place. -/
structure ReadError where
  problem : Problem
  position : Position
deriving DecidableEq, Repr

def ReadError.message (error : ReadError) : String :=
  error.problem.message ++ " at line " ++ toString error.position.line ++
    " column " ++ toString error.position.column

/-- The value that a text denotes. -/
def read (text : String) : Except ReadError Json :=
  match readText text.toList with
  | .ok value => .ok value
  | .error fault => .error ⟨fault.problem, fault.position text.toList⟩

end TreeShell.Json
