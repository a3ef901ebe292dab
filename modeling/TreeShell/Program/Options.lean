import TreeShell.Shell.Settings
import TreeShell.Toml.Reader

/-!
# Options of the program

The settings of a session together with the folder in which its snapshots are kept. Options are
read from a TOML text; what it does not mention keeps its default, and keys without a meaning
are passed over.
-/

namespace TreeShell

/-- The options of the program. An ephemeral session keeps nothing. -/
structure Options where
  settings : Shell.Settings := {}
  stateFolder : Option String := none
  ephemeral : Bool := false
deriving DecidableEq, Repr

namespace Options

/-- The text under a key, or a default if the key is missing. -/
def textOr? (key default : String) (entries : Toml.Table) : Option String :=
  match Entries.get? key entries with
  | none => some default
  | some (.string value) => some value
  | some _ => none

def optionalText? (key : String) (entries : Toml.Table) : Option (Option String) :=
  match Entries.get? key entries with
  | none => some none
  | some (.string value) => some (some value)
  | some _ => none

def booleanOr? (key : String) (default : Bool) (entries : Toml.Table) : Option Bool :=
  match Entries.get? key entries with
  | none => some default
  | some (.boolean value) => some value
  | some _ => none

/-- The options that a table states, unless a value has another type than it should. -/
def ofTable? (entries : Toml.Table) : Option Options := do
  let defaults : Options := {}
  let user ← textOr? "user" defaults.settings.user entries
  let hostname ← textOr? "hostname" defaults.settings.hostname entries
  let home ← textOr? "home" defaults.settings.home entries
  let storageKey ← textOr? "storage_key" defaults.settings.storageKey entries
  let stateFolder ← optionalText? "state_dir" entries
  let ephemeral ← booleanOr? "ephemeral" defaults.ephemeral entries
  return { settings := { user, hostname, home, storageKey }, stateFolder, ephemeral }

def read? (text : String) : Option Options :=
  (Toml.read? text).bind ofTable?

/-- The folder in which snapshots are kept, given the one in which programs keep their data; none
in an ephemeral session. -/
def folder? (options : Options) (dataFolder : String) : Option String :=
  if options.ephemeral then none
  else some (options.stateFolder.getD (dataFolder ++ "/simsh"))

end Options

end TreeShell
