/-!
# Numbers in double precision

The magnitudes that double precision can hold are the multiples of `2 ^ -1074` with at most 53
significant bits. Here such a magnitude is its number of units of `2 ^ -1074`, so rounding,
comparison and decimal writing are exact computations on natural numbers.
-/

namespace TreeShell.Binary64

/-- The quotient rounded to the nearest whole number, a half to the even neighbour. -/
def roundDiv (numerator denominator : Nat) : Nat :=
  let quotient := numerator / denominator
  let twice := 2 * (numerator % denominator)
  if twice < denominator then quotient
  else if denominator < twice then quotient + 1
  else quotient + quotient % 2

/-- The units in one. -/
def one : Nat := 1 <<< 1074

/-- Magnitudes from here on are infinite. -/
def infinity : Nat := one <<< 1024

/-- The magnitude nearest to a quotient, in units; of two equally near the one whose last bit is
zero. -/
def round (numerator denominator : Nat) : Nat :=
  let scaled := numerator * one
  let excess := (scaled / denominator).log2 + 1 - 53
  min infinity (roundDiv scaled (denominator <<< excess) <<< excess)

def mul (left right : Nat) : Nat :=
  round (left * right) (one * one)

def div (left right : Nat) : Nat :=
  round left right

/-- A decimal numeral: digits of a whole number and the power of ten it is multiplied by. -/
structure Decimal where
  digits : Nat
  exponent : Int
deriving DecidableEq, Repr

def Decimal.ratio (decimal : Decimal) : Nat × Nat :=
  if 0 ≤ decimal.exponent then (decimal.digits * Nat.pow 10 decimal.exponent.toNat, 1)
  else (decimal.digits, Nat.pow 10 decimal.exponent.natAbs)

/-- Whether a decimal numeral rounds to the magnitude. -/
def Decimal.denotes (decimal : Decimal) (units : Nat) : Bool :=
  round decimal.ratio.1 decimal.ratio.2 == units

/-- The numeral nearest to a magnitude among those with this exponent that denote it. -/
def nearest? (units : Nat) (exponent : Int) : Option Decimal :=
  let numerator := if 0 ≤ exponent then units else units * Nat.pow 10 exponent.natAbs
  let denominator := if 0 ≤ exponent then one * Nat.pow 10 exponent.toNat else one
  let below := numerator / denominator
  let first := roundDiv numerator denominator
  let second := if first = below then below + 1 else below
  if Decimal.denotes ⟨first, exponent⟩ units then some ⟨first, exponent⟩
  else if Decimal.denotes ⟨second, exponent⟩ units then some ⟨second, exponent⟩
  else none

/-- The power of ten with `10 ^ e ≤ units · 2 ^ -1074 < 10 ^ (e + 1)`, for a positive
magnitude. -/
def leadingExponent (units : Nat) : Int :=
  if one ≤ units then ((Nat.toDigits 10 (units / one)).length : Int) - 1
  else -((Nat.toDigits 10 ((one - 1) / units)).length : Int)

/-- The shortest numeral that denotes a magnitude, and of those the nearest. -/
def shortest (units : Nat) : Decimal :=
  let lead := leadingExponent units
  ((List.range 18).findSome? fun (places : Nat) => nearest? units (lead + 1 - (places : Int))).getD
    ⟨0, 0⟩

/-- An exponent as it is written: always with its sign. -/
def exponentText (exponent : Int) : List Char :=
  (if exponent < 0 then '-' else '+') :: Nat.toDigits 10 exponent.natAbs

/-- The written form of a magnitude: positional from `10 ^ -5` to `10 ^ 16`, with at least one
digit on either side of the point, and with a signed exponent outside. -/
def text (units : Nat) : String :=
  if units = 0 then "0.0"
  else
    let decimal := shortest units
    let digits := Nat.toDigits 10 decimal.digits
    let pointAt : Int := digits.length + decimal.exponent
    let zeros (count : Int) : List Char := List.replicate count.toNat '0'
    String.ofList <|
      if 0 ≤ decimal.exponent ∧ pointAt ≤ 16 then digits ++ zeros decimal.exponent ++ ['.', '0']
      else if 0 < pointAt ∧ pointAt ≤ 16 then
        digits.take pointAt.toNat ++ '.' :: digits.drop pointAt.toNat
      else if -5 < pointAt ∧ pointAt ≤ 0 then ['0', '.'] ++ zeros (-pointAt) ++ digits
      else
        let mantissa := match digits with
          | first :: second :: more => first :: '.' :: second :: more
          | _ => digits
        mantissa ++ 'e' :: exponentText (pointAt - 1)

end TreeShell.Binary64
