import TreeShell.Entries
import TreeShell.Number.Binary64
import TreeShell.Text.Quoted

/-!
# JSON values

The values that a JSON text denotes. An object read from a text has its keys in order and each
key once; an object built for writing has its keys in the order in which they are to appear.
-/

namespace TreeShell

/-- Whole numbers that fit 64 bits are kept exactly, all others in double precision. -/
inductive Json.Number where
  | natural (value : Nat)
  | negative (magnitude : Nat)
  | float (isNegative : Bool) (units : Nat)
deriving DecidableEq, Repr

inductive Json where
  | null
  | bool (value : Bool)
  | number (value : Json.Number)
  | string (value : String)
  | array (elements : List Json)
  | object (members : List (String × Json))

namespace Json

def Number.text : Number → String
  | natural value => toString value
  | negative magnitude => "-" ++ toString magnitude
  | float isNegative units => (if isNegative then "-" else "") ++ Binary64.text units

/-- How a message names a value that does not fit. -/
def description : Json → String
  | null => "null"
  | bool value => "boolean `" ++ toString value ++ "`"
  | number (.float isNegative units) =>
      "floating point `" ++ (Number.float isNegative units).text ++ "`"
  | number value => "integer `" ++ value.text ++ "`"
  | string value => "string " ++ Text.quotedText value
  | array _ => "sequence"
  | object _ => "map"

/-- The value under a key of an object; other values have none. -/
def member? (key : String) : Json → Option Json
  | object members => Entries.get? key members
  | _ => none

end Json

end TreeShell
