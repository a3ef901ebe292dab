/-!
# Decimal numerals

Writing numbers to a given width, and reading numerals with an optional sign.
-/

namespace TreeShell.Text

/-- The text with blanks before it, at least `width` characters long. -/
def padLeft (width : Nat) (text : String) : String :=
  String.ofList (List.replicate (width - text.length) ' ') ++ text

/-- The text with blanks after it, at least `width` characters long. -/
def padRight (width : Nat) (text : String) : String :=
  text ++ String.ofList (List.replicate (width - text.length) ' ')

/-- The numeral of a number with zeros before it, at least `width` digits long. -/
def zeroPad (width number : Nat) : String :=
  let digits := Nat.toDigits 10 number
  String.ofList (List.replicate (width - digits.length) '0' ++ digits)

def digit? (c : Char) : Option Nat :=
  if '0' ≤ c ∧ c ≤ '9' then some (c.toNat - '0'.toNat) else none

/-- The number that a list of digits denotes after the digits of `value`. -/
def digitsFrom? (value : Nat) : List Char → Option Nat
  | [] => some value
  | c :: rest => (digit? c).bind fun digit => digitsFrom? (value * 10 + digit) rest

/-- The number denoted by one or more digits. -/
def natural? : List Char → Option Nat
  | [] => none
  | c :: rest => digitsFrom? 0 (c :: rest)

/-- The number denoted by digits after an optional plus sign, below `2 ^ 64`. -/
def unsigned64? (text : String) : Option Nat := do
  let value ← match text.toList with
    | '+' :: digits => natural? digits
    | digits => natural? digits
  if value < 1 <<< 64 then some value else none

/-- The number denoted by digits after an optional sign, from `-2 ^ 63` to `2 ^ 63 - 1`. -/
def signed64? (text : String) : Option Int :=
  match text.toList with
  | '-' :: digits => do
      let value ← natural? digits
      if value ≤ 1 <<< 63 then some (-(value : Int)) else none
  | '+' :: digits => do
      let value ← natural? digits
      if value < 1 <<< 63 then some value else none
  | digits => do
      let value ← natural? digits
      if value < 1 <<< 63 then some value else none

end TreeShell.Text
