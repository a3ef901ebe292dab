/-!
# Blank characters

The characters that separate words of running text, and the two ways of cutting them away:
around a text, and between its words.
-/

namespace TreeShell.Text

/-- The white space of the Unicode standard. -/
def isBlank (c : Char) : Bool :=
  let code := c.toNat
  (9 ≤ code && code ≤ 13) || code == 32 || code == 0x85 || code == 0xa0 || code == 0x1680 ||
    (0x2000 ≤ code && code ≤ 0x200a) || code == 0x2028 || code == 0x2029 || code == 0x202f ||
    code == 0x205f || code == 0x3000

def trimStart (text : List Char) : List Char :=
  text.dropWhile isBlank

def trimEnd (text : List Char) : List Char :=
  (text.reverse.dropWhile isBlank).reverse

def trimChars (text : List Char) : List Char :=
  trimEnd (trimStart text)

def trim (text : String) : String :=
  String.ofList (trimChars text.toList)

/-- Counts maximal runs of characters that are not blank; `inside` tells whether the text
continues such a run. -/
def wordCountFrom (inside : Bool) : List Char → Nat
  | [] => 0
  | c :: rest =>
      if isBlank c then wordCountFrom false rest
      else if inside then wordCountFrom true rest
      else wordCountFrom true rest + 1

def wordCount (text : String) : Nat :=
  wordCountFrom false text.toList

end TreeShell.Text
