import TreeShell.Json.Value

/-!
# Writing JSON

Values are written in a layout: either without any blanks, or with one member or element a line
and two blanks of indentation for each level. Characters of a string stand for themselves except
quotes, backslashes and controls. What is written is put in front of the rest of a text.
-/

namespace TreeShell.Json

/-- One character of a written string. -/
def escapeChar (c : Char) : List Char :=
  if c = '"' then ['\\', '"']
  else if c = '\\' then ['\\', '\\']
  else if c = '\x08' then ['\\', 'b']
  else if c = '\x0c' then ['\\', 'f']
  else if c = '\n' then ['\\', 'n']
  else if c = '\r' then ['\\', 'r']
  else if c = '\t' then ['\\', 't']
  else if c.toNat < 0x20 then
    ['\\', 'u', '0', '0', Nat.digitChar (c.toNat / 16), Nat.digitChar (c.toNat % 16)]
  else [c]

/-- A written string before a rest. -/
def printString (text : String) (rest : List Char) : List Char :=
  '"' :: text.toList.foldr (fun c later => escapeChar c ++ later) ('"' :: rest)

/-- The blanks of written arrays and objects: those before what stands at a level, and those
after the colon of a member. -/
structure Layout where
  breakAt : (level : Nat) → List Char
  afterColon : List Char

def Layout.compact : Layout where
  breakAt _ := []
  afterColon := []

/-- A line for every member and element, indented by two blanks for each level. -/
def Layout.indented : Layout where
  breakAt level := '\n' :: List.replicate (2 * level) ' '
  afterColon := [' ']

mutual

/-- A value in a layout, standing at a level, before a rest. -/
def print (layout : Layout) (level : Nat) : Json → (rest : List Char) → List Char
  | null, rest => "null".toList ++ rest
  | bool true, rest => "true".toList ++ rest
  | bool false, rest => "false".toList ++ rest
  | number value, rest => value.text.toList ++ rest
  | string value, rest => printString value rest
  | array [], rest => '[' :: ']' :: rest
  | array (first :: others), rest =>
      '[' :: (layout.breakAt (level + 1) ++
        print layout (level + 1) first (printElements layout level others rest))
  | object [], rest => '\x7b' :: '\x7d' :: rest
  | object ((key, value) :: others), rest =>
      '\x7b' :: (layout.breakAt (level + 1) ++ printString key (':' :: (layout.afterColon ++
        print layout (level + 1) value (printMembers layout level others rest))))

/-- The elements after the first and the end of an array that stands at a level, before a rest. -/
def printElements (layout : Layout) (level : Nat) : List Json → (rest : List Char) → List Char
  | [], rest => layout.breakAt level ++ ']' :: rest
  | element :: others, rest =>
      ',' :: (layout.breakAt (level + 1) ++
        print layout (level + 1) element (printElements layout level others rest))

/-- The members after the first and the end of an object that stands at a level, before a rest. -/
def printMembers (layout : Layout) (level : Nat) :
    List (String × Json) → (rest : List Char) → List Char
  | [], rest => layout.breakAt level ++ '\x7d' :: rest
  | (key, value) :: others, rest =>
      ',' :: (layout.breakAt (level + 1) ++ printString key (':' :: (layout.afterColon ++
        print layout (level + 1) value (printMembers layout level others rest))))

end

/-- The text of a value in a layout. -/
def written (layout : Layout) (value : Json) : String :=
  String.ofList (print layout 0 value [])

def compact (value : Json) : String :=
  written .compact value

/-- The text of a value with line ends and indentation. -/
def pretty (value : Json) : String :=
  written .indented value

end TreeShell.Json
