import SchemaForge.CommandLine.Invocation
import SchemaForge.Product
import SchemaForge.Run.Console
import SchemaForge.Run.Execute
import SchemaForge.Run.LogFilter
import SchemaForge.Schema.File

/-!
# Commands

What the commands do on a disk. Making migrations reads the settings and the schema document, runs
the plan and shows its summary; validating reads the document and lists its invalid schemas. An
error that stops a command carries what the command was doing.
-/

namespace SchemaForge.CommandLine

/-- How a command ends. -/
inductive Ending where
  /-- The command did its work; whether everything went well decides the exit code. -/
  | done (success : Bool)
  /-- An error stopped the command while it was doing the things in `contexts`. -/
  | stopped (contexts : List String) (error : Error)
  /-- A migration would need a moment after the end of the calendar. -/
  | outOfCalendar

/-- What a command leaves behind. -/
structure Outcome where
  /-- The disk after the command. -/
  disk : Disk
  /-- What the command told, in order. -/
  events : List Event
  /-- How the command ended. -/
  ending : Ending

/-- The context of an error in the settings file. -/
def configContext : String := "reading config file"

/-- The context of an error in the schema document. -/
def schemaContext (schema : Path) : String := "loading schema document " ++ schema.text

/-- The settings as they are logged. -/
def describe (s : Settings) : String :=
  let switch := fun (on : Bool) => if on then "true" else "false"
  let templates :=
    match s.templatesDir with
    | some dir => "Some(" ++ Text.quoted dir.text ++ ")"
    | none => "None"
  "GeneratorConfig \x7b schema: " ++ Text.quoted s.schema.text ++
    ", database_dir: " ++ Text.quoted s.databaseDir.text ++ ", path: " ++ Text.quoted s.path ++
    ", stubs_dir: " ++ templates ++ ", seed: " ++ switch s.seed ++
    ", seeder_class: " ++ Text.quoted s.seederClass ++
    ", dry_run: " ++ switch s.dryRun ++ " \x7d"

/-- The log records of reading the settings file. -/
def settingsEvents (d : Disk) (named : Option Path) : List Event :=
  match Settings.File.choose d named with
  | none => []
  | some path =>
    match Settings.File.readText d path with
    | .ok _ => [.log ⟨.debug, .settings, "loaded config file", [("path", path.text)]⟩]
    | .error _ => []

/-- Runs the plan of resolved settings for the schemas of a document and shows the summary. -/
def generate (s : Settings) (start : Moment) (set : SchemaSet) (d : Disk) : Outcome :=
  let loaded : Event := .log ⟨.info, .commands, "schema document loaded",
    [("schemas", Decimal.natText set.size), ("path", s.schema.text)]⟩
  let o := Run.execute s start set d
  let events := loaded :: o.events
  match o.ending with
  | .finished summary =>
    let shown := [Event.output "\n", .output summary.display]
    let complaint :=
      if summary.isSuccess then []
      else [Event.failure
        (Decimal.natText summary.failures ++ " file(s) could not be generated.")]
    ⟨o.disk, events ++ shown ++ complaint, .done summary.isSuccess⟩
  | .refused e => ⟨o.disk, events, .stopped [] e⟩
  | .outOfCalendar => ⟨o.disk, events, .outOfCalendar⟩

/-- Makes migrations. -/
def makeMigration (arguments : MigrationArguments) (start : Moment) (d : Disk) : Outcome :=
  let events := settingsEvents d arguments.config
  match Settings.File.load d arguments.config with
  | .error e => ⟨d, events, .stopped [configContext] e⟩
  | .ok file =>
    match Settings.resolve file arguments.overrides with
    | .error e => ⟨d, events, .stopped [] e⟩
    | .ok s =>
      let events := events ++
        [.log ⟨.debug, .commands, "resolved configuration", [("config", describe s)]⟩]
      match SchemaSet.load d s.schema with
      | .error e => ⟨d, events, .stopped [schemaContext s.schema] e⟩
      | .ok set =>
        let o := generate s start set d
        { o with events := events ++ o.events }

/-- What is told about an invalid schema. -/
def invalidEvents (invalid : InvalidSchema) : List Event :=
  .comment (invalid.action.keyword ++ " " ++ invalid.name) ::
    invalid.errors.map fun e => .item e.message

/-- Checks a schema document. -/
def validate (schema : Path) (d : Disk) : Outcome :=
  match SchemaSet.load d schema with
  | .error e => ⟨d, [], .stopped [schemaContext schema] e⟩
  | .ok set =>
    let size := Decimal.natText set.size
    if set.report.isEmpty then
      ⟨d, [.info (size ++ " schemas, no problems found.")], .done true⟩
    else
      ⟨d, set.report.flatMap invalidEvents ++
        [.failure (Decimal.natText set.report.length ++ " of " ++ size ++
          " schemas have problems.")], .done false⟩

/-- Does what an invocation asks for. -/
def Command.run (c : Command) (start : Moment) (d : Disk) : Outcome :=
  match c with
  | .makeMigration arguments => CommandLine.makeMigration arguments start d
  | .validate schema => CommandLine.validate schema d

/-- The text of an error with what was being done in front of it. -/
def errorText (contexts : List String) (e : Error) : String :=
  "Error: " ++ Text.join ": " (contexts ++ [e.message]) ++ "\n"

/-- What a whole program prints and does. -/
structure Session where
  /-- The disk after the program. -/
  disk : Disk
  /-- Everything that is printed, in order. -/
  printed : List (Console.Stream × String)
  /-- The exit code. -/
  exitCode : Nat

/-- The log records that are shown: those of the filter if it is given and well formed, and else
those up to a level that the invocation sets. -/
def logFilter (verbose : Bool) (given : Option String) : LogFilter :=
  (given.bind LogFilter.parse?).getD (.upTo (if verbose then .debug else .info))

/-- Whether an event is shown. -/
def isShown (f : LogFilter) : Event → Bool
  | .log record => f.shows record
  | _ => true

/-- Runs an invocation as a whole program; none if the calendar ends first. -/
def Invocation.session (i : Invocation) (log : Option String) (color : Bool) (start : Moment)
    (d : Disk) : Option Session :=
  let o := i.command.run start d
  let opening : Event :=
    .log ⟨.debug, .program, "stubsmith starting", [("version", Text.quoted Product.version)]⟩
  let f := logFilter i.verbose log
  let printed := ((opening :: o.events).filter (isShown f)).map (Console.render color)
  match o.ending with
  | .done success => some ⟨o.disk, printed, if success then 0 else 1⟩
  | .stopped contexts e => some ⟨o.disk, printed ++ [(.err, errorText contexts e)], 1⟩
  | .outOfCalendar => none

end SchemaForge.CommandLine
