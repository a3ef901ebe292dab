/-!
# Sizes

A size in bytes is written as a number, or for people in the greatest unit that it fills, rounded
to tenths. A half of a tenth is rounded up, and a tenth of zero is left out.
-/

namespace TreeShell.Text

/-- The greatest unit that a size of at least 1024 fills, in bytes, and its letter. -/
def sizeUnit (size : Nat) : Nat × String :=
  if size < 1024 * 1024 then (1024, "K")
  else if size < 1024 * 1024 * 1024 then (1024 * 1024, "M")
  else (1024 * 1024 * 1024, "G")

/-- A quotient in tenths, rounded to the nearest, a half up. -/
def roundedTenths (size unit : Nat) : Nat :=
  (20 * size + unit) / (2 * unit)

def tenthsText (tenths : Nat) : String :=
  if tenths % 10 = 0 then toString (tenths / 10)
  else toString (tenths / 10) ++ "." ++ toString (tenths % 10)

def humanSize (size : Nat) : String :=
  if size < 1024 then toString size
  else
    let (unit, letter) := sizeUnit size
    tenthsText (roundedTenths size unit) ++ letter

end TreeShell.Text
