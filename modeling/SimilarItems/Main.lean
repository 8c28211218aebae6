import Std.Time.DateTime.Timestamp
import SimilarItems.Command.Arguments
import SimilarItems.Command.Run
import SimilarItems.DataDirectory
import SimilarItems.Log.Line
import SimilarItems.Settings.File
import SimilarItems.Store.File

/-!
# The program

Reads arguments, settings and the table, carries out one command, and writes what has become of it.
All decisions are made elsewhere.
-/

namespace SimilarItems.Program

/-- The file with the table in a data directory. -/
def tablePath (dir : String) : String := DataDirectory.join dir "embeddings.jsonl"

/-- The present instant. -/
def presentInstant : IO Instant := do
  let nanos := (← Std.Time.Timestamp.now).toNanosecondsSinceUnixEpoch.val
  return ⟨nanos / Instant.nanosPerSecond, (nanos % Instant.nanosPerSecond).toNat⟩

/-- The content of a file, if it can be read. -/
def contentOf? (path : String) : IO (Option ByteArray) := do
  try return some (← IO.FS.readBinFile path) catch _ => return none

/-- Creates an empty file, and tells whether that was possible. -/
def create (path : String) : IO Bool := do
  try
    IO.FS.writeFile path ""
    return true
  catch _ => return false

/-- What is found in the place of the settings file. -/
def settingsFile (dir : String) : IO SettingsFile := do
  try return .bytes (← IO.FS.readBinFile (DataDirectory.settingsPath dir))
  catch
    | .noFileOrDirectory .. => return .missing
    | _ => return .unreadable

/-- The table in a data directory; without its file it is empty. -/
def storedTable (dir : String) : IO Table := do
  match (← contentOf? (tablePath dir)).bind String.fromUTF8? with
  | none => return []
  | some text =>
    match Table.ofText? text with
    | some t => return t
    | none => throw (.userError ("the table in " ++ tablePath dir ++ " cannot be read"))

/-- What a command finds around it. Only the paths that it names are tried. -/
def surroundings (settings : Settings) (c : Command) : IO Command.Surroundings := do
  let now ← presentInstant
  match c with
  | .load path =>
    let content ← contentOf? path
    return ⟨now, settings, fun p => if p = path then content else none, fun _ => false⟩
  | .neighbors _ (some path) =>
    let created ← create path
    return ⟨now, settings, fun _ => none, fun p => p = path && created⟩
  | _ => return ⟨now, settings, fun _ => none, fun _ => false⟩

/-- Logs what a command has to say about its work. -/
def log (i : Invocation) (now : Instant) (records : List Log.Record) : IO Unit := do
  let filter := Log.Filter.parse (Log.directiveFor i.verbose i.quiet)
  for e in filter.select (records.map fun r => ⟨"seedrank", r⟩) do
    if i.jsonLog then IO.eprintln e.toJson.compact
    else IO.eprintln (now.zulu ++ " " ++ e.toText)

/-- Carries out a command on the table of the data directory. -/
def performOnTable (i : Invocation) : IO UInt32 := do
  let dir := DataDirectory.resolve (← IO.getEnv "SEEDRANK_DATA_DIR") (← IO.getEnv "HOME")
  IO.FS.createDirAll dir
  let (settings, fault) := (← settingsFile dir).load
  let store := { Store.empty settings.embeddings.dimension with table := some (← storedTable dir) }
  let around ← surroundings settings i.command
  let (after, outcome) := Command.run around store i.json i.command
  if after.table ≠ store.table then
    IO.FS.writeFile (tablePath dir) (after.table.getD []).toText
  if let some file := outcome.file then IO.FS.writeFile file.path file.content
  let faults := fault.toList.map fun f => Log.Record.mk .warn f.message []
  log i around.now (faults ++ outcome.warnings)
  IO.print outcome.output
  IO.eprint outcome.notice
  match outcome.failure with
  | none => return 0
  | some f =>
    IO.eprintln ("Error: " ++ f.message)
    return 1

/-- Carries out a command. Completions need no data directory. -/
def perform (i : Invocation) : IO UInt32 := do
  match i.command with
  | .completions shell =>
    IO.print (Command.completionScript shell)
    return 0
  | _ => performOnTable i

/-- The lines that help consists of. -/
def helpLines : List String :=
  ("Usage: " ++ Command.programName ++ " [OPTIONS] <COMMAND>") :: "" :: "Commands:"
    :: Command.Verb.all.map fun v =>
      "  " ++ " ".intercalate (v.name :: v.operands.map fun o => "<" ++ o.name ++ ">")

/-- Says why arguments gave no command, or gives what they asked for. -/
def explain (n : Command.NoCommand) : IO UInt32 := do
  match n with
  | .help => helpLines.forM IO.println
  | .version _ => IO.print n.output
  | .rejected e =>
    IO.eprintln ("error: " ++ e.message ++ "\n")
    helpLines.forM IO.eprintln
  return n.exitCode.toUInt32

end SimilarItems.Program

/-- Carries out what the arguments say. -/
def main (args : List String) : IO UInt32 :=
  match SimilarItems.Invocation.parse args with
  | .ok i => SimilarItems.Program.perform i
  | .error n => SimilarItems.Program.explain n
