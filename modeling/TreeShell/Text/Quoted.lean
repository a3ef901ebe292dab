import TreeShell.Text.Case
import TreeShell.Text.Class.Table

/-!
# Texts quoted for a message

In a message a text stands between double quotes. Quotes and backslashes in it are marked by a
backslash, line ends, tabs and the zero character have short names, and every other character
that cannot be shown by itself is given by its code point.
-/

namespace TreeShell.Text

def quotedChar (c : Char) : List Char :=
  if c = '\x00' then ['\\', '0']
  else if c = '\t' then ['\\', 't']
  else if c = '\r' then ['\\', 'r']
  else if c = '\n' then ['\\', 'n']
  else if c = '\\' then ['\\', '\\']
  else if c = '"' then ['\\', '"']
  else if inRanges hiddenRanges c then
    ['\\', 'u', '\x7b'] ++ Nat.toDigits 16 c.toNat ++ ['\x7d']
  else [c]

/-- The text in double quotes. -/
def quotedText (text : String) : String :=
  String.ofList ('"' :: text.toList.flatMap quotedChar ++ ['"'])

end TreeShell.Text
