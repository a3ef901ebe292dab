import TreeShell.Date
import TreeShell.Number.Binary64
import TreeShell.Text.CodePoint
import TreeShell.Text.Numeral
import TreeShell.Toml.Value

/-!
# Numbers and moments in TOML

Whole numbers have 64 bits with a sign and may be written to other bases without one. Numbers
with a fraction are in double precision and may not be too great. Moments are dates, times of
day, or both with or without an offset. Each reader takes the longest front of a text that is
such a value and gives it with the rest.
-/

namespace TreeShell.Toml

/-- Digits of a base, single underscores allowed between them. -/
def digitRun (isDigit : Char → Bool) : List Char → List Char × List Char
  | '_' :: c :: rest =>
      if isDigit c then
        let (digits, after) := digitRun isDigit rest
        (c :: digits, after)
      else ([], '_' :: c :: rest)
  | c :: rest =>
      if isDigit c then
        let (digits, after) := digitRun isDigit rest
        (c :: digits, after)
      else ([], c :: rest)
  | [] => ([], [])

/-- One or more digits, the first of them without an underscore before it. -/
def digits? (isDigit : Char → Bool) : List Char → Option (List Char × List Char)
  | c :: rest =>
      if isDigit c then
        let (digits, after) := digitRun isDigit rest
        some (c :: digits, after)
      else none
  | [] => none

def isDecimalDigit (c : Char) : Bool := (Text.digit? c).isSome

/-- An optional sign, true for a minus. -/
def sign (text : List Char) : Bool × List Char :=
  match text with
  | '+' :: rest => (false, rest)
  | '-' :: rest => (true, rest)
  | rest => (false, rest)

/-- A whole number without sign in decimal digits; a zero stands alone. -/
def wholeDigits? : List Char → Option (List Char × List Char)
  | '0' :: rest => some (['0'], rest)
  | text => digits? isDecimalDigit text

/-- The number that digits of a base up to sixteen denote. -/
def valueOf (base : Nat) (digits : List Char) : Nat :=
  digits.foldl (fun value c => value * base + (Text.hexDigit? c).getD 0) 0

/-- A whole number to a base other than ten, behind the mark of the base. -/
def basedInteger? (base : Nat) (isDigit : Char → Bool) (text : List Char) :
    Option (Int × List Char) := do
  let (digits, rest) ← digits? isDigit text
  let value := valueOf base digits
  if value < 1 <<< 63 then some (value, rest) else none

def integer? : List Char → Option (Int × List Char)
  | '0' :: 'x' :: rest =>
      basedInteger? 16 (fun c => (Text.hexDigit? c).isSome) rest
  | '0' :: 'o' :: rest => basedInteger? 8 (fun c => '0' ≤ c && c ≤ '7') rest
  | '0' :: 'b' :: rest => basedInteger? 2 (fun c => c == '0' || c == '1') rest
  | text => do
      let (negative, unsigned) := sign text
      let (digits, rest) ← wholeDigits? unsigned
      let value := valueOf 10 digits
      if negative then
        if value ≤ 1 <<< 63 then some (-(value : Int), rest) else none
      else if value < 1 <<< 63 then some (value, rest)
      else none

/-- Whether a decimal numeral is too great for double precision. Numerals that are far outside
its range on either side are told by their length alone. -/
def isTooGreat (digits : Nat) (exponent : Int) : Bool :=
  let magnitude := ((Nat.toDigits 10 digits).length : Int) + exponent
  if digits = 0 ∨ magnitude < 300 then false
  else if 400 < magnitude then true
  else
    let (numerator, denominator) := (Binary64.Decimal.mk digits exponent).ratio
    Binary64.round numerator denominator == Binary64.infinity

/-- The digits behind a point, if there is one. -/
def fraction? : List Char → Option (List Char × List Char)
  | '.' :: rest => digits? isDecimalDigit rest
  | _ => none

/-- The exponent behind its mark, if there is one. -/
def exponent? : List Char → Option (Int × List Char)
  | c :: rest =>
      if c = 'e' ∨ c = 'E' then do
        let (negative, unsigned) := sign rest
        let (digits, after) ← digits? isDecimalDigit unsigned
        let value : Int := valueOf 10 digits
        return (if negative then -value else value, after)
      else none
  | [] => none

/-- The rest of a text behind a number with a fraction or an exponent. A number that is too great
is none, unless it is negative. -/
def afterDecimal? (text : List Char) : Option (List Char) := do
  let (negative, unsigned) := sign text
  let (whole, rest) ← wholeDigits? unsigned
  let (places, rest, pointed) := match fraction? rest with
    | some (places, after) => (places, after, true)
    | none => ([], rest, false)
  let (exponent, rest, raised) := match exponent? rest with
    | some (exponent, after) => (exponent, after, true)
    | none => ((0 : Int), rest, false)
  if !pointed && !raised then none
  else if !negative && isTooGreat (valueOf 10 (whole ++ places)) (exponent - places.length) then
    none
  else some rest

/-- The rest of a text behind one of the two numbers that have names. -/
def afterNamedNumber? (text : List Char) : Option (List Char) :=
  match (sign text).2 with
  | 'i' :: 'n' :: 'f' :: rest => some rest
  | 'n' :: 'a' :: 'n' :: rest => some rest
  | _ => none

/-- The rest of a text behind a number in double precision. -/
def afterFloat? (text : List Char) : Option (List Char) :=
  match afterDecimal? text with
  | some rest => some rest
  | none => afterNamedNumber? text

/-! ### Moments -/

/-- A number of exactly `count` digits within bounds. -/
def bounded? (count least most : Nat) (text : List Char) : Option (Nat × List Char) := do
  let digits := text.take count
  if digits.length = count ∧ digits.all isDecimalDigit then
    let value := valueOf 10 digits
    if least ≤ value ∧ value ≤ most then some (value, text.drop count) else none
  else none

/-- The rest of a text behind a character. -/
def after? (c : Char) : List Char → Option (List Char)
  | d :: rest => if d = c then some rest else none
  | [] => none

def afterDate? (text : List Char) : Option (List Char) := do
  let (year, rest) ← bounded? 4 0 9999 text
  let (month, rest) ← bounded? 2 1 12 (← after? '-' rest)
  let (_, rest) ← bounded? 2 1 (Date.daysInMonth year month) (← after? '-' rest)
  return rest

/-- The rest of a text behind a time of day; a second may be a leap second. -/
def afterTime? (text : List Char) : Option (List Char) := do
  let (_, rest) ← bounded? 2 0 23 text
  let (_, rest) ← bounded? 2 0 59 (← after? ':' rest)
  let (_, rest) ← bounded? 2 0 60 (← after? ':' rest)
  match rest with
  | '.' :: places =>
      let fraction := places.takeWhile isDecimalDigit
      if fraction = [] then return rest else return places.drop fraction.length
  | _ => return rest

def afterOffset? : List Char → Option (List Char)
  | c :: rest =>
      if c = 'Z' ∨ c = 'z' then some rest
      else if c = '+' ∨ c = '-' then do
        let (_, rest) ← bounded? 2 0 23 rest
        let (_, rest) ← bounded? 2 0 59 (← after? ':' rest)
        return rest
      else none
  | [] => none

/-- The rest of a text behind the time of day that belongs to a date. -/
def afterTimeOfDate? : List Char → Option (List Char)
  | c :: rest =>
      if c = 'T' ∨ c = 't' ∨ c = ' ' then do
        let rest ← afterTime? rest
        return (afterOffset? rest).getD rest
      else none
  | [] => none

def afterMoment? (text : List Char) : Option (List Char) :=
  match afterDate? text with
  | some rest => some ((afterTimeOfDate? rest).getD rest)
  | none => afterTime? text

/-- The part of a text before one of its ends. -/
def frontBefore (text rest : List Char) : String :=
  String.ofList (text.take (text.length - rest.length))

/-- A number or a moment at the front of a text. -/
def readNumber? (text : List Char) : Option (Toml × List Char) :=
  match afterMoment? text with
  | some rest => some (.moment (frontBefore text rest), rest)
  | none =>
      match afterFloat? text with
      | some rest => some (.float (frontBefore text rest), rest)
      | none => (integer? text).map fun (value, rest) => (.integer value, rest)

end TreeShell.Toml
