import SchemaForge.CommandLine.Program
import SchemaForge.CommandLine.Survey
import Std.Time.Zoned

/-!
# The program

The program reads what a command looks at into a disk, runs the command on it, prints what the
command tells, and carries the changes of the disk out.
-/

namespace SchemaForge.CommandLine

/-- The text of the absolute path of a location. -/
def absolute (place : Location) : String := "/" ++ "/".intercalate place

/-- The disk with what is really at a location. -/
def look (d : Disk) (place : Location) : IO Disk := do
  let here := (← IO.currentDir) / absolute place
  if ← here.isDir then return d.put place .directory
  match ← (IO.FS.readBinFile here).toBaseIO with
  | .ok content => return d.put place (.file content)
  | .error _ => return d

/-- The disk with what is really at a location and below it. Links to directories are not
followed. -/
partial def lookBelow (d : Disk) (place : Location) : IO Disk := do
  let here := (← IO.currentDir) / absolute place
  let d ← look d place
  match ← here.readDir.toBaseIO with
  | .error _ => return d
  | .ok below =>
    below.foldlM (fun d inner => do
      match ← inner.path.symlinkMetadata.toBaseIO with
      | .ok ⟨_, _, _, .symlink, _⟩ | .error _ => return d
      | .ok _ => lookBelow d (place ++ [inner.fileName])) d

/-- The disk with everything of a survey. -/
def lookAll (d : Disk) (s : Survey) : IO Disk := do
  let d ← (s.paths.flatMap (route d.workDir)).foldlM look d
  s.trees.foldlM (fun d tree => do
    let places := route d.workDir tree
    let d ← places.foldlM look d
    match places.getLast? with
    | some place => lookBelow d place
    | none => return d) d

/-- Makes a file or directory at a location. -/
def carryOut (place : Location) : Entry → IO Unit
  | .directory => IO.FS.createDirAll (absolute place)
  | .file content => IO.FS.writeBinFile (absolute place) content

/-- The clock of the time zone without an offset. -/
def universalTime : IO Std.Time.PlainDateTime := do
  return .ofWallTime (.ofTimestamp (← Std.Time.Timestamp.now) .zero)

/-- The moment it is now, in local time if the time zone is known. -/
def currentMoment : IO Moment := do
  let now ← try Std.Time.PlainDateTime.now catch _ => universalTime
  match Moment.of? now.year.toInt now.month.toNat now.day.toNat now.hour.toNat now.minute.toNat
      (min now.second.toNat 59) with
  | some m => return m
  | none => throw (IO.userError "the clock is beyond the calendar")

/-- The variables of the environment that stand for options. -/
def readEnvironment : IO (List (String × String)) := do
  let keys := seedVariable :: environmentOptions.map fun (_, key, _) => key
  let mut given : List (String × String) := []
  for key in keys do
    if let some value := ← IO.getEnv key then
      given := given ++ [(key, value)]
  return given

/-- How the program is used. -/
def usage : String :=
  "usage: stubsmith [-v] make-migration [--schema FILE] [--config FILE] [--database-dir DIR]\n" ++
  "         [--path NAME] [--stubs-dir DIR] [--seed] [--seeder-class NAME] [--dry-run]\n" ++
  "       stubsmith [-v] validate FILE\n"

/-- Prints what is shown in the place of running a command line; the result is the exit code. -/
def complain (fault : UsageFault) : IO UInt32 := do
  match fault with
  | .displayHelp => IO.print usage; return 0
  | .displayVersion => IO.println ("stubsmith " ++ Product.version); return 0
  | fault => IO.eprint ("error: " ++ fault.name ++ "\n" ++ usage); return 2

/-- Runs an invocation on the real disk; the result is the exit code. -/
def perform (i : Invocation) : IO UInt32 := do
  let place := (Path.mk (← IO.currentDir).toString).names.filter (· != "")
  let d ← lookAll (.bare place) i.command.first
  let d ← lookAll d (i.command.second d)
  let color := Console.usesColor (← IO.getEnv "CLICOLOR_FORCE") (← IO.getEnv "NO_COLOR")
    (← IO.getEnv "CLICOLOR") (← (← IO.getStdout).isTty)
  match i.session (← IO.getEnv "RUST_LOG") color (← currentMoment) d with
  | none => throw (IO.userError "a migration would need a moment after the end of the calendar")
  | some s =>
    for (place, entry) in s.disk.changesSince d do
      carryOut place entry
    for (stream, text) in s.printed do
      match stream with
      | .out => IO.print text
      | .err => IO.eprint text
    return s.exitCode.toUInt32

end SchemaForge.CommandLine

/-- Runs the program on the words of its command line. -/
def main (words : List String) : IO UInt32 := do
  match SchemaForge.CommandLine.parse (← SchemaForge.CommandLine.readEnvironment) words with
  | .ok i => SchemaForge.CommandLine.perform i
  | .error fault => SchemaForge.CommandLine.complain fault
