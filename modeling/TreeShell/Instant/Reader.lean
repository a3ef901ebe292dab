import TreeShell.Instant
import TreeShell.Text.Blank
import TreeShell.Text.Numeral

/-!
# Reading written instants

Instants are read from a lenient form of the written date and time with offset: numbers need
no leading zeros, blanks may stand before numbers and punctuation, date and time are separated
by `T`, `t` or a blank, the zone is `Z`, `UTC` or an offset in hours and minutes, and digits of
the fraction beyond the ninth are dropped. A year with a sign may have any number of digits.
The second 60 is read as a leap second.
-/

namespace TreeShell

/-- Why a text does not denote an instant. -/
inductive InstantFault where
  | outOfRange
  | impossible
  | invalid
  | tooShort
  | tooLong
deriving DecidableEq, Repr

def InstantFault.message : InstantFault → String
  | outOfRange => "input is out of range"
  | impossible => "no possible date and time matching input"
  | invalid => "input contains invalid characters"
  | tooShort => "premature end of input"
  | tooLong => "trailing input"

namespace Instant

/-- A reader takes what it needs from the front of a text and hands on the rest. -/
abbrev Reader (α : Type) := List Char → Except InstantFault (α × List Char)

/-- The number written by the digits at the front of a text, at most `width` of them, after the
digits of `value`. It has to stay below `2 ^ 63`. -/
def readDigits (value : Nat) : (width : Nat) → Reader Nat
  | 0, text => .ok (value, text)
  | width + 1, c :: rest =>
      match Text.digit? c with
      | none => .ok (value, c :: rest)
      | some digit =>
          if value * 10 + digit < 1 <<< 63 then readDigits (value * 10 + digit) width rest
          else .error .outOfRange
  | _ + 1, [] => .ok (value, [])

/-- A number of one to `width` digits. -/
def readNumber (width : Nat) : Reader Nat
  | [] => .error .tooShort
  | c :: rest =>
      match Text.digit? c with
      | none => .error .invalid
      | some _ => readDigits 0 width (c :: rest)

/-- A number of one or two digits within bounds, with blanks before it. -/
def readField (least greatest : Nat) : Reader Nat := fun text => do
  let (value, rest) ← readNumber 2 (Text.trimStart text)
  if least ≤ value ∧ value ≤ greatest then return (value, rest) else throw .outOfRange

/-- A number of up to four digits, or a sign and any number of digits. -/
def readSigned : Reader Int
  | '-' :: digits => do
      let (value, rest) ← readNumber digits.length digits
      return (-(value : Int), rest)
  | '+' :: digits => do
      let (value, rest) ← readNumber digits.length digits
      return ((value : Int), rest)
  | digits => do
      let (value, rest) ← readNumber 4 digits
      return ((value : Int), rest)

/-- A year, with blanks before it, that fits 32 bits. -/
def readYear : Reader Int := fun text => do
  let (year, rest) ← readSigned (Text.trimStart text)
  if -2147483648 ≤ year ∧ year ≤ 2147483647 then return (year, rest) else throw .outOfRange

/-- One punctuation character, with blanks before it. -/
def readMark (mark : Char) : Reader Unit := fun text =>
  match Text.trimStart text with
  | [] => .error .tooShort
  | c :: rest => if c = mark then .ok ((), rest) else .error .invalid

/-- The nanoseconds written after a point, if there is one. -/
def readFraction : Reader Nat
  | '.' :: digits => do
      let (value, rest) ← readNumber 9 digits
      let places := digits.length - rest.length
      return (value * Nat.pow 10 (9 - places), rest.dropWhile fun c => (Text.digit? c).isSome)
  | text => .ok (0, text)

def readPair : Reader Nat
  | [] => .error .tooShort
  | [c] => if c.utf8Size < 2 then .error .tooShort else .error .invalid
  | c :: d :: rest =>
      match Text.digit? c, Text.digit? d with
      | some tens, some ones => .ok (tens * 10 + ones, rest)
      | _, _ => .error .invalid

/-- The sign of an offset: whether it is negative. -/
def readSign : Reader Bool
  | [] => .error .tooShort
  | c :: rest =>
      if c = '+' then .ok (false, rest)
      else if c = '-' ∨ c = '\u2212' then .ok (true, rest)
      else .error .invalid

/-- The zone as seconds east of universal time. -/
def readZone : Reader Int := fun text =>
  match text with
  | 'Z' :: rest => .ok (0, rest)
  | 'z' :: rest => .ok (0, rest)
  | _ =>
      if (text.take 3).map Char.toUpper = ['U', 'T', 'C'] then .ok (0, text.drop 3)
      else do
        let (negative, rest) ← readSign text
        let (hours, rest) ← readPair rest
        let (minutes, rest) ← readPair (rest.dropWhile fun c => c == ':' || Text.isBlank c)
        if minutes < 60 then
          let offset : Int := ((hours * 3600 + minutes * 60 : Nat) : Int)
          return (if negative then -offset else offset, rest)
        else throw .outOfRange

/-- The instant of a local date and time at an offset. -/
def ofLocal (date : Date) (hour minute second nanoseconds : Nat) (offset : Int) :
    Except InstantFault Instant :=
  let leap := if second = 60 then 1 else 0
  let time : Int := ((hour * 3600 + minute * 60 + (second - leap) : Nat) : Int)
  let seconds := date.toDays * 86400 + time - offset
  if !date.isValid then .error .outOfRange
  else if offset ≤ -86400 ∨ 86400 ≤ offset then .error .outOfRange
  else if seconds < Date.firstDay * 86400 ∨ (Date.lastDay + 1) * 86400 ≤ seconds then
    .error .impossible
  else .ok { seconds, nanoseconds := nanoseconds + leap * 1000000000 }

/-- A date: year, month and day with dashes between them. -/
def readDate : Reader Date := fun text => do
  let (year, rest) ← readYear text
  let ((), rest) ← readMark '-' rest
  let (month, rest) ← readField 1 12 rest
  let ((), rest) ← readMark '-' rest
  let (day, rest) ← readField 1 31 rest
  return ({ year, month, day }, rest)

/-- The character between date and time. -/
def readSeparator : Reader Unit
  | [] => .error .tooShort
  | c :: rest => if c = 'T' ∨ c = 't' ∨ c = ' ' then .ok ((), rest) else .error .invalid

/-- A time of day: hour, minute and second with colons between them. -/
def readTime : Reader (Nat × Nat × Nat) := fun text => do
  let (hour, rest) ← readField 0 23 text
  let ((), rest) ← readMark ':' rest
  let (minute, rest) ← readField 0 59 rest
  let ((), rest) ← readMark ':' rest
  let (second, rest) ← readField 0 60 rest
  return ((hour, minute, second), rest)

/-- The end of a text, with blanks before it. -/
def readEnd : Reader Unit := fun text =>
  if Text.trimStart text = [] then .ok ((), []) else .error .tooLong

def readWhole (text : List Char) : Except InstantFault Instant := do
  let (date, rest) ← readDate text
  let ((), rest) ← readSeparator rest
  let ((hour, minute, second), rest) ← readTime rest
  let (nanoseconds, rest) ← readFraction rest
  let (offset, rest) ← readZone (Text.trimStart rest)
  let ((), _) ← readEnd rest
  ofLocal date hour minute second nanoseconds offset

/-- The instant that a text denotes. -/
def read (text : String) : Except InstantFault Instant :=
  readWhole text.toList

end Instant

end TreeShell
