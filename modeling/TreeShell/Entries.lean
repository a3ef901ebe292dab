/-!
# Named entries in order

A finite map from names to values, kept as a list in strictly increasing order of names. Names
are compared by code points. Directories, objects of a document and stores are such lists.
-/

namespace TreeShell

/-- Values under names, in increasing order of names. -/
abbrev Entries (α : Type) := List (String × α)

namespace Entries

variable {α : Type}

def get? (name : String) : Entries α → Option α
  | [] => none
  | (key, value) :: rest => if key = name then some value else get? name rest

/-- The entries with one value put under a name, in place of any that was there. -/
def put (name : String) (value : α) : Entries α → Entries α
  | [] => [(name, value)]
  | (key, old) :: rest =>
      if name < key then (name, value) :: (key, old) :: rest
      else if key = name then (name, value) :: rest
      else (key, old) :: put name value rest

def remove (name : String) : Entries α → Entries α
  | [] => []
  | (key, value) :: rest =>
      if key = name then rest else (key, value) :: remove name rest

/-- Entries put one after the other: of two values for one name the later stays. -/
def ofList (pairs : List (String × α)) : Entries α :=
  pairs.foldl (fun entries pair => put pair.1 pair.2 entries) []

@[simp]
theorem get?_put_self (name : String) (value : α) (entries : Entries α) :
    get? name (put name value entries) = some value := by
  induction entries with
  | nil => simp [put, get?]
  | cons entry rest ih =>
      obtain ⟨key, old⟩ := entry
      simp only [put]
      split
      · simp [get?]
      · split
        · simp [get?]
        · simp [get?, *]

theorem get?_put_of_ne {name other : String} (different : other ≠ name) (value : α)
    (entries : Entries α) : get? other (put name value entries) = get? other entries := by
  induction entries with
  | nil => simp [put, get?, different.symm]
  | cons entry rest ih =>
      obtain ⟨key, old⟩ := entry
      simp only [put]
      split
      · simp [get?, different.symm]
      · split
        next same =>
          subst same
          simp [get?, different.symm]
        next => simp [get?, ih]

theorem get?_remove_of_ne {name other : String} (different : other ≠ name)
    (entries : Entries α) : get? other (remove name entries) = get? other entries := by
  induction entries with
  | nil => rfl
  | cons entry rest ih =>
      obtain ⟨key, value⟩ := entry
      simp only [remove]
      split
      next same =>
        subst same
        simp [get?, different.symm]
      next => simp [get?, ih]

end Entries

end TreeShell
