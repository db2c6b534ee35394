import SchemaForge.CommandLine.Invocation
import SchemaForge.Settings.Basic

/-!
# What a command looks at

A command is a function of a disk, but it depends on few of its places. A survey names them: single
paths, and directories that matter with everything below them. It comes in two parts, since the
settings file decides where the rest lies.
-/

namespace SchemaForge.CommandLine

/-- The parts of a disk that something depends on. -/
structure Survey where
  /-- Single files or directories. -/
  paths : List Path := []
  /-- Files or directories with everything below them. -/
  trees : List Path := []
deriving DecidableEq, Repr

/-- What a run with resolved settings looks at. -/
def Survey.ofSettings (s : Settings) : Survey where
  paths := s.schema :: s.templatesDir.toList.flatMap fun dir =>
    Template.names.map (Template.pathIn dir)
  trees := [s.migrationsDir, s.seedsRoot, s.seedsDir]

/-- What a command looks at first. -/
def Command.first : Command → Survey
  | .makeMigration arguments => { paths := [arguments.config.getD Settings.defaultFile] }
  | .validate schema => { paths := [schema] }

/-- What a command looks at once the disk shows what it looks at first. -/
def Command.second (c : Command) (d : Disk) : Survey :=
  match c with
  | .validate _ => {}
  | .makeMigration arguments =>
    match Settings.File.load d arguments.config with
    | .error _ => {}
    | .ok file =>
      match Settings.resolve file arguments.overrides with
      | .error _ => {}
      | .ok s => .ofSettings s

/-- The locations that names lead through from a place, whether or not something is there. -/
def passed (place : Location) : List String → List Location
  | [] => [place]
  | name :: rest =>
    if name = "" ∨ name = "." then passed place rest
    else if name = ".." then place :: passed place.dropLast rest
    else place :: passed (place ++ [name]) rest

/-- The locations that a path leads through, the one it leads to last. -/
def route (workDir : Location) (p : Path) : List Location :=
  passed (if p.isAbsolute then [] else workDir) p.names

end SchemaForge.CommandLine
