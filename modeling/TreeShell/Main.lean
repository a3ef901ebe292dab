import Std.Time.DateTime.Timestamp
import TreeShell.Program

/-!
# The command line

The program run on a real host. The files that it may need are read before each step, and those
that the step changed are written after it; everything in between is decided by the program
itself.
-/

namespace TreeShell.Main

def present : IO Instant := do
  let time ← Std.Time.Timestamp.now
  let nanoseconds := time.toNanosecondsSinceUnixEpoch.val
  return { seconds := nanoseconds / 1000000000, nanoseconds := (nanoseconds % 1000000000).toNat }

/-- The folder in which programs keep their data. -/
def dataFolder : IO String := do
  match ← IO.getEnv "XDG_DATA_HOME" with
  | some folder => if folder.startsWith "/" then return folder else fromHome
  | none => fromHome
where
  /-- The usual folder below the home of the host's user. -/
  fromHome : IO String := return ((← IO.getEnv "HOME").getD ".") ++ "/.local/share"

def isDirectory (spelling : String) : IO Bool := do
  try
    discard <| IO.FS.realPath (spelling ++ "/.")
    return true
  catch _ => return false

/-- The host with the directories that a spelling leads through at present. -/
def survey (host : Host) (spelling : String) : IO Host := do
  let (start, segments) := Host.startAndSegments spelling
  let mut host := host
  for count in List.range segments.length do
    let front := Host.placeOf (start ++ segments.take (count + 1))
    if ← isDirectory front then
      host := host.addFolder (Host.follow front)
  return host

/-- The host with the present text of the file that a spelling leads to, or without it. -/
def refresh (host : Host) (spelling : String) : IO Host := do
  let host ← survey host spelling
  let place := Host.placeOf (Host.follow spelling)
  try
    let text ← IO.FS.readFile spelling
    return { host with files := Entries.put place text host.files }
  catch _ => return { host with files := Entries.remove place host.files }

/-- Writes and removes files as a step has changed them. -/
def settle (before after : Host) : IO Unit := do
  for place in Host.foldersSince before after do
    try IO.FS.createDirAll place catch _ => pure ()
  for (place, text) in Host.writtenSince before after do
    try
      if let some (folder, _) := Text.splitLast? '/' place.toList then
        IO.FS.createDirAll (String.ofList folder)
      IO.FS.writeFile (place ++ ".tmp") text
      IO.FS.rename (place ++ ".tmp") place
    catch _ => pure ()
  for place in Host.removedSince before after do
    try IO.FS.removeFile place catch _ => pure ()

def put (text : String) : IO Unit := do
  IO.print text
  (← IO.getStdout).flush

/-- The next line of the input without its end. -/
def nextLine : IO (Option String) := do
  let line ← (← IO.getStdin).getLine
  return (Text.lines line).head?

/-- Uses a terminal until it closes. -/
partial def converse (terminal : Terminal) : IO Unit := do
  unless terminal.mode = .closed do
    put terminal.prompt
    let now ← present
    match ← nextLine with
    | none =>
        let (shown, final) := terminal.finish now
        settle terminal.host final.host
        put shown
    | some line =>
        let host ←
          if terminal.mode = .importing then refresh terminal.host (Text.trim line)
          else pure terminal.host
        let (shown, after) := { terminal with host }.enter now line
        settle host after.host
        put shown
        converse after

/-- The host with the files that a call of the program may need from the beginning. -/
def prepare (arguments : Arguments) : IO Host := do
  let host : Host := { dataFolder := ← dataFolder }
  let host ← match arguments.config with
    | none => pure host
    | some path => refresh host path
  match Program.options arguments host with
  | .error _ => return host
  | .ok options =>
      match options.folder? host.dataFolder with
      | none => return host
      | some folder =>
          let key := options.settings.storageKey
          let host ← survey host (Host.fileIn folder (Store.temporaryName key))
          refresh host (Host.fileIn folder (Store.fileName key))

/-- Runs a call that does not hold a session. -/
def runOnce (arguments : List String) (host : Host) : IO UInt32 := do
  let outcome := Program.run (← present) arguments "" host
  settle host outcome.host
  put outcome.shown
  IO.eprint outcome.complaint
  return outcome.code.toUInt32

def run (arguments : List String) : IO UInt32 := do
  match Arguments.read arguments with
  | .start given =>
      let host ← prepare given
      match given.command, Program.options given host with
      | none, .ok options =>
          let folder := options.folder? host.dataFolder
          let terminal := Terminal.start (← present) options.settings folder host
          settle host terminal.host
          put Terminal.greeting
          converse terminal
          return 0
      | _, _ => runOnce arguments host
  | _ => runOnce arguments {}

end TreeShell.Main

def main (arguments : List String) : IO UInt32 :=
  TreeShell.Main.run arguments
