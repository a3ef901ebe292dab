import TreeShell.Entries

/-!
# TOML values

What a TOML text denotes: a table with values under keys. A table remembers how it came about,
because that decides what may still be added to it: nothing to a table in braces, and only new
keys to a table that has had its own header.

Numbers with a fraction and moments are kept as they are written.
-/

namespace TreeShell

/-- How a table came about: written in braces, under a header of its own, by a dotted key, or on
the way to the header of another table. -/
inductive Toml.Origin where
  | braces
  | header
  | dottedKey
  | passed
deriving DecidableEq, Repr

/-- A TOML value. The elements of an array of tables each had a header. -/
inductive Toml where
  | string (value : String)
  | boolean (value : Bool)
  | integer (value : Int)
  | float (written : String)
  | moment (written : String)
  | array (elements : List Toml)
  | table (origin : Toml.Origin) (entries : List (String × Toml))
  | tables (elements : List (List (String × Toml)))

namespace Toml

abbrev Table := List (String × Toml)

/-- A list with its last element replaced by what `alter` makes of it; none if there is no last
element or if `alter` has no answer. -/
def alterLast? {α : Type} (alter : α → Option α) (elements : List α) : Option (List α) := do
  let last ← elements.getLast?
  return elements.dropLast ++ [← alter last]

/-- A table with a value under a key that is reached by the dots before it. Tables on the way are
made where there is nothing, and the key itself must be new. Only a table made by dotted keys
takes one more key by way of dots. -/
def define? (value : Toml) (key : String) : List String → Table → Option Table
  | [], entries =>
      match Entries.get? key entries with
      | none => some (Entries.put key value entries)
      | some _ => none
  | step :: rest, entries =>
      match Entries.get? step entries with
      | none => do
          let inner ← define? value key rest []
          return Entries.put step (table .dottedKey inner) entries
      | some (table .dottedKey inner) => do
          let inner ← define? value key rest inner
          return Entries.put step (table .dottedKey inner) entries
      | some (table .passed inner) =>
          if rest = [] then none
          else do
            let inner ← define? value key rest inner
            return Entries.put step (table .passed inner) entries
      | some (tables elements) =>
          if rest = [] then none
          else do
            let elements ← alterLast? (define? value key rest) elements
            return Entries.put step (tables elements) entries
      | some _ => none

/-- A table changed at the place that the keys of a header lead to. Tables on the way are made
where there is nothing; an array of tables leads on to its last element. -/
def alterAt? (alter : Table → Option Table) : List String → Table → Option Table
  | [], entries => alter entries
  | step :: rest, entries =>
      match Entries.get? step entries with
      | none => do
          let inner ← alterAt? alter rest []
          return Entries.put step (table .passed inner) entries
      | some (table .braces _) => none
      | some (table origin inner) => do
          let inner ← alterAt? alter rest inner
          return Entries.put step (table origin inner) entries
      | some (tables elements) => do
          let elements ← alterLast? (alterAt? alter rest) elements
          return Entries.put step (tables elements) entries
      | some _ => none

/-- A table with a header for one of its keys: the key is new, or was only passed on the way to
other tables. -/
def openTable? (key : String) (entries : Table) : Option Table :=
  match Entries.get? key entries with
  | none => some (Entries.put key (table .header []) entries)
  | some (table .passed inner) => some (Entries.put key (table .header inner) entries)
  | some _ => none

/-- A table with one more element in the array of tables under a key. -/
def openElement? (key : String) (entries : Table) : Option Table :=
  match Entries.get? key entries with
  | none => some (Entries.put key (tables [[]]) entries)
  | some (tables elements) => some (Entries.put key (tables (elements ++ [[]])) entries)
  | some _ => none

end Toml

end TreeShell
