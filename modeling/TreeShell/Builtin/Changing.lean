import TreeShell.Command.Action

/-!
# Commands that change the tree

These commands make, remove, copy and move nodes. Those that take several operands work on them
one after the other and go on after a failure.
-/

namespace TreeShell.Builtin

/-! ### Making -/

def mkdir (invocation : Invocation) : Action Output :=
  Action.forEachOperand .mkdir invocation.operands fun spelling => do
    Action.change .mkdir (Volume.createDirectory invocation.now spelling)
    return some ("mkdir: created directory '" ++ spelling ++ "'")

/-- Makes empty files. A file that exists keeps its text and counts as modified, and a directory
stays as it is; neither answers a line. -/
def touch (invocation : Invocation) : Action Output :=
  Action.forEachOperand .touch invocation.operands fun spelling volume =>
    match volume.node? spelling with
    | some (.file _ content) =>
        (do
          Action.change .touch (Volume.writeFile invocation.now spelling content)
          return none : Action (Option String)) volume
    | some (.directory ..) => .ok none volume
    | none =>
        (do
          Action.change .touch (Volume.createFile invocation.now spelling "")
          return some ("touch: created file '" ++ spelling ++ "'") :
            Action (Option String)) volume

/-! ### Removing -/

/-- Removes a node; a directory only if that is allowed. -/
def removeOperand (now : Instant) (recursive : Bool) (spelling : String) : Action Unit :=
  fun volume =>
    match volume.node? spelling with
    | none => .error (.notFound .rm spelling) volume
    | some node =>
        if node.isDirectory && !recursive then
          .error (.usage .rm ("cannot remove '" ++ spelling ++ "': Is a directory")) volume
        else Action.change .rm (Volume.removeNode now spelling) volume

/-- Removes nodes. When forced, operands that cannot be removed are passed over in silence. -/
def rm (invocation : Invocation) : Action Output :=
  let recursive := invocation.hasFlag 'r' || invocation.hasFlag 'R'
  let forced := invocation.hasFlag 'f'
  if invocation.operands.isEmpty && forced then return .text ""
  else
    Action.forEachOperand .rm invocation.operands fun spelling volume =>
      match removeOperand invocation.now recursive spelling volume with
      | .ok () changed => .ok (some ("removed '" ++ spelling ++ "'")) changed
      | .error fault changed => if forced then .ok none changed else .error fault changed

def rmdir (invocation : Invocation) : Action Output :=
  Action.forEachOperand .rmdir invocation.operands fun spelling volume =>
    match volume.node? spelling with
    | none => .error (.notFound .rmdir spelling) volume
    | some (.file ..) => .error (.notADirectory .rmdir spelling) volume
    | some (.directory _ entries) =>
        if entries.isEmpty then
          (do
            Action.change .rmdir (Volume.removeNode invocation.now spelling)
            return some ("removed directory '" ++ spelling ++ "'") :
              Action (Option String)) volume
        else .error (.directoryNotEmpty .rmdir spelling) volume

/-! ### Copying and moving -/

/-- Where something that is copied or moved to a destination lands: in the destination under its
last name if that is a directory, and else at the destination itself. -/
def landing (volume : Volume) (source destination : String) : String :=
  if (volume.node? destination).any Node.isDirectory then
    Path.dropSlashes destination ++ "/" ++ Path.basename source
  else destination

def cp (invocation : Invocation) : Action Output :=
  match invocation.operands with
  | [source, destination] => do
      let content ← Action.observe fun volume => volume.readFor .cp source
      let target := landing (← get) source destination
      Action.change .cp (Volume.createFile invocation.now target content)
      return .text ("'" ++ source ++ "' copied to '" ++ target ++ "'")
  | _ => throw (.missingOperand .cp)

def mv (invocation : Invocation) : Action Output :=
  match invocation.operands with
  | [source, destination] => do
      let target := landing (← get) source destination
      Action.change .mv (Volume.moveNode invocation.now source target)
      return .text ("'" ++ source ++ "' moved to '" ++ target ++ "'")
  | _ => throw (.missingOperand .mv)

end TreeShell.Builtin
