import TreeShell.Text.CodePoint
import TreeShell.Toml.Number

/-!
# Reading TOML

A text is a sequence of lines: comments, headers of tables and of elements of arrays of tables,
and keys with values. Strings and arrays may go over several lines, tables in braces may not.
Nesting and dotted keys are limited in depth.

The readers of parts of a text take the part from its front and give it with the rest. Those
that call each other take a number of steps that the length of the text bounds.
-/

namespace TreeShell.Toml

/-- Arrays, tables in braces and dotted keys have fewer levels than this. -/
def depthLimit : Nat := 80

/-! ### Blanks, line ends and comments -/

/-- The blanks within a line. -/
def isSpace (c : Char) : Bool := c == ' ' || c == '\t'

/-- The characters of comments and strings: tabs and everything that is no control character. -/
def isTextChar (c : Char) : Bool :=
  c == '\t' || (0x20 ≤ c.toNat && c.toNat != 0x7f)

def skipSpaces (text : List Char) : List Char :=
  text.dropWhile isSpace

def afterLineEnd? : List Char → Option (List Char)
  | '\n' :: rest => some rest
  | '\r' :: '\n' :: rest => some rest
  | _ => none

/-- The rest of a text behind what may stand at the end of a line: blanks, a comment, and the line
end or the end of the text. -/
def finishLine? (text : List Char) : Option (List Char) :=
  let rest := match skipSpaces text with
    | '#' :: comment => comment.dropWhile isTextChar
    | rest => rest
  if rest = [] then some [] else afterLineEnd? rest

/-- The rest of a text behind blanks, line ends and comments. -/
def skipGap : (inComment : Bool) → List Char → Option (List Char)
  | _, [] => some []
  | _, '\n' :: rest => skipGap false rest
  | _, '\r' :: '\n' :: rest => skipGap false rest
  | true, c :: rest => if isTextChar c then skipGap true rest else none
  | false, c :: rest =>
      if isSpace c then skipGap false rest
      else if c = '#' then skipGap true rest
      else some (c :: rest)

/-! ### Strings -/

/-- The character whose code point has these hexadecimal digits. -/
def charOfDigits? (digits : List Char) : Option Char :=
  (Text.hexValue? digits).bind Text.charOf?

/-- The character that an escape of one letter stands for. -/
def namedEscape? (c : Char) : Option Char :=
  if c = 'b' then some '\x08'
  else if c = 't' then some '\t'
  else if c = 'n' then some '\n'
  else if c = 'f' then some '\x0c'
  else if c = 'r' then some '\r'
  else if c = '"' then some '"'
  else if c = '\\' then some '\\'
  else none

/-- The character of an escape behind its backslash. -/
def readEscape? : List Char → Option (Char × List Char)
  | 'u' :: rest => do
      if (rest.take 4).length < 4 then none
      return (← charOfDigits? (rest.take 4), rest.drop 4)
  | 'U' :: rest => do
      if (rest.take 8).length < 8 then none
      return (← charOfDigits? (rest.take 8), rest.drop 8)
  | c :: rest => (namedEscape? c).map fun value => (value, rest)
  | [] => none

/-- One more character before what a reader of a string has read. -/
def prepend (c : Char) (read : Option (List Char × List Char)) :
    Option (List Char × List Char) :=
  read.map fun (content, rest) => (c :: content, rest)

/-- A string on one line with escapes, behind its opening quote. -/
def readEscaped : (steps : Nat) → List Char → Option (List Char × List Char)
  | 0, _ => none
  | _, [] => none
  | steps + 1, c :: rest =>
      if c = '"' then some ([], rest)
      else if c = '\\' then do
        let (value, rest) ← readEscape? rest
        prepend value (readEscaped steps rest)
      else if isTextChar c then prepend c (readEscaped steps rest)
      else none

/-- A string on one line without escapes, behind its opening quote. -/
def readLiteral : List Char → Option (List Char × List Char)
  | [] => none
  | c :: rest =>
      if c = '\'' then some ([], rest)
      else if isTextChar c then prepend c (readLiteral rest)
      else none

/-- The quotes at the front of a text that ends a string of several lines: up to two belong to
the string and three end it. -/
def closingQuotes? (quote : Char) (text : List Char) : Option (List Char × List Char) :=
  let count := ((text.take 5).takeWhile (· = quote)).length
  if count < 3 then none else some (List.replicate (count - 3) quote, text.drop count)

/-- The rest of a text behind a backslash that joins two lines: the blanks around the line end
are dropped, and all line ends among them. -/
def afterJoin? (text : List Char) : Option (List Char) := do
  let rest ← afterLineEnd? (skipSpaces text)
  return skipLines rest
where
  /-- The rest of a text behind blanks and line ends. -/
  skipLines : List Char → List Char
    | '\n' :: rest => skipLines rest
    | '\r' :: '\n' :: rest => skipLines rest
    | c :: rest => if isSpace c then skipLines rest else c :: rest
    | [] => []

/-- A string of several lines with escapes, behind its opening quotes. -/
def readEscapedLines : (steps : Nat) → List Char → Option (List Char × List Char)
  | 0, _ => none
  | _, [] => none
  | steps + 1, c :: rest =>
      match closingQuotes? '"' (c :: rest) with
      | some closed => some closed
      | none =>
          if c = '\\' then
            match readEscape? rest with
            | some (value, rest) => prepend value (readEscapedLines steps rest)
            | none => do readEscapedLines steps (← afterJoin? rest)
          else
            match afterLineEnd? (c :: rest) with
            | some rest => prepend '\n' (readEscapedLines steps rest)
            | none => if isTextChar c then prepend c (readEscapedLines steps rest) else none

/-- A string of several lines without escapes, behind its opening quotes. -/
def readLiteralLines : (steps : Nat) → List Char → Option (List Char × List Char)
  | 0, _ => none
  | _, [] => none
  | steps + 1, c :: rest =>
      match closingQuotes? '\'' (c :: rest) with
      | some closed => some closed
      | none =>
          match afterLineEnd? (c :: rest) with
          | some rest => prepend '\n' (readLiteralLines steps rest)
          | none => if isTextChar c then prepend c (readLiteralLines steps rest) else none

def dropLineEnd (text : List Char) : List Char :=
  (afterLineEnd? text).getD text

/-- A string of any kind. -/
def readString : List Char → Option (List Char × List Char)
  | '"' :: '"' :: '"' :: rest => readEscapedLines (rest.length + 1) (dropLineEnd rest)
  | '"' :: rest => readEscaped (rest.length + 1) rest
  | '\'' :: '\'' :: '\'' :: rest => readLiteralLines (rest.length + 1) (dropLineEnd rest)
  | '\'' :: rest => readLiteral rest
  | _ => none

/-! ### Keys -/

def isKeyChar (c : Char) : Bool :=
  ('a' ≤ c && c ≤ 'z') || ('A' ≤ c && c ≤ 'Z') || ('0' ≤ c && c ≤ '9') || c == '-' || c == '_'

/-- One part of a key, with or without quotes. -/
def readKeyPart : List Char → Option (String × List Char)
  | '"' :: rest => (readEscaped (rest.length + 1) rest).map fun (key, rest) =>
      (String.ofList key, rest)
  | '\'' :: rest => (readLiteral rest).map fun (key, rest) => (String.ofList key, rest)
  | text =>
      let key := text.takeWhile isKeyChar
      if key = [] then none else some (String.ofList key, text.drop key.length)

/-- The parts of a key between dots, blanks around them dropped. -/
def readKeyParts : (steps : Nat) → List Char → Option (List String × List Char)
  | 0, _ => none
  | steps + 1, text => do
      let (part, rest) ← readKeyPart (skipSpaces text)
      match skipSpaces rest with
      | '.' :: rest => do
          let (parts, rest) ← readKeyParts steps rest
          return (part :: parts, rest)
      | rest => return ([part], rest)

/-- A key: its last part and the parts before it. -/
def readKey (text : List Char) : Option ((List String × String) × List Char) := do
  let (parts, rest) ← readKeyParts (depthLimit - 1) text
  let last ← parts.getLast?
  return ((parts.dropLast, last), rest)

/-! ### Values -/

mutual

/-- A value at a depth. -/
def readValue : (steps depth : Nat) → List Char → Option (Toml × List Char)
  | 0, _, _ => none
  | steps + 1, depth, text =>
      match text with
      | '"' :: _ => (readString text).map fun (content, rest) =>
          (string (String.ofList content), rest)
      | '\'' :: _ => (readString text).map fun (content, rest) =>
          (string (String.ofList content), rest)
      | '[' :: rest =>
          if depth + 1 < depthLimit then do
            let (elements, rest) ← readElements steps (depth + 1) rest
            return (array elements, rest)
          else none
      | '\x7b' :: rest =>
          if depth + 1 < depthLimit then do
            let (entries, rest) ← readPairs steps (depth + 1) true [] rest
            return (table .braces entries, rest)
          else none
      | 't' :: 'r' :: 'u' :: 'e' :: rest => some (boolean true, rest)
      | 'f' :: 'a' :: 'l' :: 's' :: 'e' :: rest => some (boolean false, rest)
      | text => readNumber? text

/-- The elements of an array up to its closing bracket. -/
def readElements : (steps depth : Nat) → List Char → Option (List Toml × List Char)
  | 0, _, _ => none
  | steps + 1, depth, text => do
      let text ← skipGap false text
      match text with
      | ']' :: rest => return ([], rest)
      | text => do
          let (element, rest) ← readValue steps depth text
          let rest ← skipGap false rest
          match rest with
          | ',' :: rest => do
              let (elements, rest) ← readElements steps depth rest
              return (element :: elements, rest)
          | ']' :: rest => return ([element], rest)
          | _ => none

/-- The keys and values of a table in braces up to its closing brace, added to `entries`. Only at
the beginning the brace may follow at once. -/
def readPairs : (steps depth : Nat) → (atStart : Bool) → Table → List Char →
    Option (Table × List Char)
  | 0, _, _, _, _ => none
  | steps + 1, depth, atStart, entries, text =>
      match atStart, skipSpaces text with
      | true, '\x7d' :: rest => some (entries, rest)
      | _, text => do
          let ((dots, key), rest) ← readKey text
          let rest ← after? '=' rest
          let (value, rest) ← readValue steps depth (skipSpaces rest)
          let entries ← define? value key dots entries
          match skipSpaces rest with
          | ',' :: rest => readPairs steps depth false entries rest
          | '\x7d' :: rest => some (entries, rest)
          | _ => none

end

/-! ### Lines -/

/-- The part of a text that has been read as a table, and the keys of the last header. -/
structure Progress where
  root : Table := []
  current : List String := []

/-- The header of an element of an array of tables, behind its two opening brackets. -/
def readElementHeader (progress : Progress) (text : List Char) :
    Option (Progress × List Char) := do
  let ((way, key), rest) ← readKey text
  let rest ← after? ']' rest
  let rest ← finishLine? (← after? ']' rest)
  let root ← alterAt? (openElement? key) way progress.root
  return ({ root, current := way ++ [key] }, rest)

/-- The header of a table, behind its opening bracket. -/
def readTableHeader (progress : Progress) (text : List Char) :
    Option (Progress × List Char) := do
  let ((way, key), rest) ← readKey text
  let rest ← finishLine? (← after? ']' rest)
  let root ← alterAt? (openTable? key) way progress.root
  return ({ root, current := way ++ [key] }, rest)

/-- A key with its value on a line. -/
def readPair (progress : Progress) (text : List Char) : Option (Progress × List Char) := do
  let ((dots, key), rest) ← readKey text
  let rest ← after? '=' rest
  let (value, rest) ← readValue (rest.length + 1) 0 (skipSpaces rest)
  let rest ← finishLine? rest
  let root ← alterAt? (define? value key dots) progress.current progress.root
  return ({ progress with root }, rest)

def readLines : (steps : Nat) → Progress → List Char → Option Table
  | 0, _, _ => none
  | steps + 1, progress, text =>
      match skipSpaces text with
      | [] => some progress.root
      | '[' :: '[' :: rest => do
          let (progress, rest) ← readElementHeader progress rest
          readLines steps progress rest
      | '[' :: rest => do
          let (progress, rest) ← readTableHeader progress rest
          readLines steps progress rest
      | c :: rest =>
          if c = '#' ∨ c = '\n' ∨ c = '\r' then do
            readLines steps progress (← finishLine? (c :: rest))
          else do
            let (progress, rest) ← readPair progress (c :: rest)
            readLines steps progress rest

/-- The table that a text denotes. -/
def read? (text : String) : Option Table :=
  let chars := match text.toList with
    | '\ufeff' :: rest => rest
    | chars => chars
  readLines (chars.length + 1) {} chars

end TreeShell.Toml
