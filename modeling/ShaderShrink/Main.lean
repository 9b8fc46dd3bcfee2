import ShaderShrink.CommandLine.Command
import ShaderShrink.Json.Inline

/-!
# The command line program

The program reads the files below the present directory, runs the command that its arguments name, and
then writes the files that the command changed.  It has no tools outside of itself: a command that needs
some is told that they cannot be reached.
-/

namespace ShaderShrink.Main

/-- The entries below a directory, of which the place is given. -/
partial def readEntries (place : Place) (entries : Array IO.FS.DirEntry) : IO (List (Place × Entry)) := do
  let mut found := []
  for entry in entries do
    let inside := place ++ [entry.fileName]
    if ← entry.path.isDir then
      found := found ++ (inside, Entry.directory) :: (← readEntries inside (← entry.path.readDir))
    else
      found := found ++ [(inside, Entry.file (← IO.FS.readBinFile entry.path))]
  return found

/-- The files below the present directory. -/
def readFiles : IO FileTree := do
  return ⟨← readEntries [] (← (← IO.currentDir).readDir)⟩

/-- The text of a place. -/
def placeText (place : Place) : String := "/".intercalate place

/-- Whether a file or a directory stands at a place as it did before. -/
def isKept (before : FileTree) (place : Place) (entry : Entry) : Bool :=
  match before.lookup? place, entry with
  | some .directory, .directory => true
  | some (.file old), .file new => old.toList == new.toList
  | _, _ => false

/-- Writes what has changed. -/
def writeChanges (before after : FileTree) : IO Unit := do
  for (place, entry) in after.entries do
    if !isKept before place entry then
      match entry with
      | .directory => IO.FS.createDirAll (placeText place)
      | .file content => IO.FS.writeBinFile (placeText place) content
  for (place, entry) in before.entries do
    match entry, after.lookup? place with
    | .file _, none => IO.FS.removeFile (placeText place)
    | _, _ => pure ()

/-- The variables of the environment that hold settings. -/
def readEnvironment : IO (List (String × String)) := do
  let values ← Settings.names.mapM fun name => do
    let variableName := (Settings.environmentPrefix ++ name).toUpper
    return (← IO.getEnv variableName).map fun value => (variableName, value)
  return values.filterMap id

/-- What all tools outside answer. -/
def unreachable : Fault := .system .unreachable "no tools outside of the program can be reached"

/-- A host that reaches no tools. -/
def host : Host Unit where
  run _ _ := throw unreachable
  send _ := throw unreachable

/-- How the program is used. -/
def usage : String :=
  "usage: reduce FRAGMENT_SHADER REDUCTION_KIND [OPTIONS]\n" ++
    "       status --work-dir DIRECTORY --base-name NAME\n" ++
    "kinds: " ++ ", ".intercalate (ReductionKind.all.map ReductionKind.name) ++ "\n" ++
    "options of reduce: " ++ " ".intercalate (Command.reduceOptions.valued ++ Command.reduceOptions.flags)

/-- What is printed of a report. -/
def shown : Command.Output → String
  | .help | .refusal => usage
  | .message text => text
  | .summary rows => "\n".intercalate (rows.map fun row => row.1 ++ ": " ++ row.2)
  | .status status => String.ofList status.inline
  | .fault fault => fault.text

end ShaderShrink.Main

open ShaderShrink in
/-- Runs a command and gives its exit code. -/
def main (arguments : List String) : IO UInt32 := do
  let files ← Main.readFiles
  let surroundings : Settings.Surroundings :=
    ⟨← Main.readEnvironment, (← IO.rand 0 2147483647 : Nat)⟩
  let world : World Unit := ⟨files, [], ⟨"", [".candidate"]⟩, 0, ()⟩
  match (Command.run Main.host surroundings arguments).run world with
  | .ok report after => do
    for record in after.log do
      if record.level != .debug || arguments.contains "--verbose" then IO.eprintln record.message
    Main.writeChanges files after.files
    IO.println (Main.shown report.output)
    return UInt32.ofNat report.exitCode
  | .error fault after => do
    Main.writeChanges files after.files
    IO.eprintln fault.text
    return 1
