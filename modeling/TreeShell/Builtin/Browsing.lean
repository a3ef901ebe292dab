import TreeShell.Builtin.Filtering
import TreeShell.Instant.Format
import TreeShell.Text.Case
import TreeShell.Text.Size

/-!
# Commands that look at the tree

These commands list, find, measure and show nodes, or open them for editing. Only the change of
the current directory changes the volume.
-/

namespace TreeShell.Builtin

open Text (padLeft)

/-! ### Listing -/

def longLine (human : Bool) (node : Node) : String :=
  let size := if human then Text.humanSize node.size else toString node.size
  String.intercalate " "
    [node.attributes.permissions, "1", node.attributes.owner, node.attributes.group,
      padLeft 8 size, node.attributes.modified.listingText, node.name]

/-- The entries of a directory. Names that start with a dot are left out unless all are asked
for. -/
def ls (invocation : Invocation) : Action Output :=
  Action.observe fun volume =>
    match volume.listDirectory (firstOperand invocation) with
    | .error fault => .error (.ofFileFault .ls fault)
    | .ok entries =>
        let nodes := (entries.map Prod.snd).filter fun node =>
          invocation.hasFlag 'a' || node.name.toList.head? != some '.'
        if invocation.hasFlag 'l' then
          let total := "total " ++ toString nodes.length
          .ok (.text (Text.unlines (total :: nodes.map (longLine (invocation.hasFlag 'h')))))
        else .ok (.text (String.intercalate "  " (nodes.map Node.name)))

/-! ### Moving about -/

/-- A spelling with a home in place of a `~` that is its whole first segment. -/
def expandHome (home spelling : String) : String :=
  match spelling.toList with
  | ['~'] => home
  | '~' :: '/' :: rest => home ++ String.ofList ('/' :: rest)
  | _ => spelling

/-- Makes a directory the current one, the home unless another is given. -/
def cd (invocation : Invocation) : Action Output := fun volume =>
  let home := Path.spell volume.home
  let target := (invocation.arguments.head?.map (expandHome home)).getD home
  (do
    Action.change .cd (Volume.changeDirectory invocation.now target)
    return .text "" : Action Output) volume

def pwd : Action Output :=
  Action.observe fun volume => .ok (.text (Path.spell volume.current))

/-! ### Finding -/

/-- What arguments say about finding files: the text to look for, after the first `-name`, and
the place to start from, the first other argument that is no option. -/
structure FindRequest where
  pattern : Option String
  place : Option String
deriving DecidableEq, Repr

namespace FindRequest

def dropQuotes (text : String) : String :=
  String.ofList (text.toList.filter fun c => c != '"' && c != '\'')

def ofArguments (arguments : List String) : FindRequest :=
  let before := arguments.takeWhile (· != "-name")
  let after := arguments.drop (before.length + 1)
  { pattern := after.head?.map dropQuotes
    place := (before ++ after.tail).find? fun argument => !Invocation.isOption argument }

end FindRequest

/-- The paths of files whose name or path contains a text. -/
def find (invocation : Invocation) : Action Output :=
  Action.observe fun volume =>
    let request := FindRequest.ofArguments invocation.arguments
    match request.pattern with
    | none => .error (.usage .find "unsupported options (use -name <pattern>)")
    | some pattern =>
        let place := request.place.getD (Path.spell volume.current)
        if (volume.node? place).isNone then .error (.notFound .find place)
        else .ok (.text (Text.unlines (volume.findFiles pattern place)))

/-! ### Measuring and telling kinds -/

def directoryKilobytes : Nat := 4

mutual

/-- The kilobytes that a node takes: files are rounded up to whole kilobytes. -/
def usage : Node → Nat
  | .file _ content => (content.utf8ByteSize + 1023) / 1024
  | .directory _ entries => directoryKilobytes + usageOfEntries entries

def usageOfEntries : List (String × Node) → Nat
  | [] => 0
  | (_, child) :: rest => usage child + usageOfEntries rest

end

/-- The disk usage of a node, the current directory unless another is given. -/
def du (invocation : Invocation) : Action Output :=
  Action.observe fun volume =>
    let place := (firstOperand invocation).getD "."
    match volume.node? place with
    | none => .error (.notFound .du place)
    | some node => .ok (.text (toString (usage node) ++ "\t" ++ place))

/-- What kind of thing a node is, as far as its text tells. -/
def kindText : Node → String
  | .directory .. => "directory"
  | .file _ content =>
      if content = "" then "empty"
      else if Text.contains content "#!/bin/bash" then
        "Bourne-Again shell script, ASCII text executable"
      else if Text.occursIn "<html".toList (Text.lower content.toList) then
        "HTML document, ASCII text"
      else if content.toList.all fun c => c.toNat < 128 then "ASCII text"
      else "UTF-8 Unicode text"

/-- The kinds of nodes, after their names unless brevity is asked for. -/
def file (invocation : Invocation) : Action Output :=
  Action.forEachOperand .file invocation.operands fun spelling =>
    Action.observe fun volume =>
      match volume.node? spelling with
      | none => .error (.notFound .file spelling)
      | some node =>
          .ok (some
            (if invocation.hasFlag 'b' then kindText node
            else spelling ++ ": " ++ kindText node))

/-! ### Showing and editing -/

/-- The piped text, or else the texts of files. -/
def cat (invocation : Invocation) : Action Output :=
  match invocation.piped with
  | some text => return .text text
  | none =>
      Action.forEachOperand .cat invocation.operands fun spelling =>
        Action.observe fun volume => (volume.readFor .cat spelling).map some

/-- Asks for a file to be edited; a file that does not exist is empty. -/
def nano (invocation : Invocation) : Action Output :=
  Action.observe fun volume =>
    match firstOperand invocation with
    | none => .error (.missingOperand .nano)
    | some spelling =>
        let path := Path.spell (volume.resolve spelling)
        match volume.node? spelling with
        | none => .ok (.openEditor path "")
        | some _ => (volume.readFor .nano spelling).map fun content => .openEditor path content

end TreeShell.Builtin
