/-!
# Code points

A character can be given by the hexadecimal digits of its code point.
-/

namespace TreeShell.Text

def hexDigit? (c : Char) : Option Nat :=
  if '0' ≤ c ∧ c ≤ '9' then some (c.toNat - '0'.toNat)
  else if 'a' ≤ c ∧ c ≤ 'f' then some (c.toNat - 'a'.toNat + 10)
  else if 'A' ≤ c ∧ c ≤ 'F' then some (c.toNat - 'A'.toNat + 10)
  else none

def hexValue? (digits : List Char) : Option Nat := do
  let values ← digits.mapM hexDigit?
  return values.foldl (fun number value => number * 16 + value) 0

/-- The character with a code point; surrogates and what lies beyond the last one have none. -/
def charOf? (code : Nat) : Option Char :=
  if h : code.isValidChar then some (Char.ofNatAux code h) else none

end TreeShell.Text
