import SchemaForge.CommandLine.Grammar
import SchemaForge.Settings.Basic

/-!
# Invocations

What the words of a command line ask for: to make migrations or to validate a document. Every option
of the first command can also be given by a variable of the environment, which counts where the
option itself is absent.
-/

namespace SchemaForge.CommandLine

/-- What the command that makes migrations is given. -/
structure MigrationArguments where
  /-- The settings file. -/
  config : Option Path := none
  /-- What is given for this run. -/
  overrides : Overrides := {}
deriving DecidableEq, Repr

/-- What a command line asks for. -/
inductive Command where
  /-- Make migrations. -/
  | makeMigration (arguments : MigrationArguments)
  /-- Check a schema document. -/
  | validate (schema : Path)
deriving DecidableEq, Repr

/-- A command line that is understood. -/
structure Invocation where
  /-- Whether more is logged. -/
  verbose : Bool
  /-- What is asked for. -/
  command : Command
deriving DecidableEq, Repr

/-- The switch that asks for more logging, which every command takes. -/
def verboseArgument : Argument := ⟨"verbose", some 'v', .switch⟩

/-- The argument that asks for the help, which every command takes. -/
def helpArgument : Argument := ⟨"help", some 'h', .help⟩

/-- What the program itself takes. -/
def rootGrammar : Grammar where
  arguments := [verboseArgument, helpArgument, ⟨"version", some 'V', .version⟩]
  positionals := []
  commands := ["make-migration", "validate", "help"]

/-- The options of the command that makes migrations that can be given by the environment, with the
names of their variables. -/
def environmentOptions : List (String × String × ValueType) :=
  [("schema", "STUBSMITH_SCHEMA", .path), ("config", "STUBSMITH_CONFIG", .path),
    ("database-dir", "STUBSMITH_DATABASE_DIR", .path), ("path", "STUBSMITH_PATH", .text),
    ("stubs-dir", "STUBSMITH_STUBS_DIR", .path), ("seeder-class", "STUBSMITH_SEEDER_CLASS", .text)]

/-- The variable that turns seeders on. -/
def seedVariable : String := "STUBSMITH_SEED"

/-- What the command that makes migrations takes. -/
def migrationGrammar : Grammar where
  arguments := environmentOptions.map (fun (name, _, type) => ⟨name, none, .option type⟩) ++
    [⟨"seed", none, .switch⟩, ⟨"dry-run", none, .switch⟩, verboseArgument, helpArgument]
  positionals := []
  commands := []

/-- What the command that checks a document takes. -/
def validateGrammar : Grammar where
  arguments := [verboseArgument, helpArgument]
  positionals := [("schema", .path)]
  commands := []

/-- Everything that a command without commands inside it is given. -/
def readAll (g : Grammar) (words : List String) : Except UsageFault Reading := do
  let (r, _) ← g.take {} words
  r.settle

/-- The values with those of the environment added for options that are absent. -/
def withEnvironment (environment : List (String × String)) (r : Reading) :
    List (String × String × ValueType) → Except UsageFault Reading
  | [] => .ok r
  | (name, key, type) :: rest => do
    match r.given.lookup name, environment.lookup key with
    | none, some value => do
      let r ← r.storeChecked name type value
      withEnvironment environment r rest
    | _, _ => withEnvironment environment r rest

/-- Whether seeders are turned on, by the switch or else by the environment. -/
def readSeed (environment : List (String × String)) (r : Reading) : Except UsageFault Bool :=
  if (r.given.lookup "seed").isSome then .ok true
  else
    match environment.lookup seedVariable with
    | none => .ok false
    | some "true" => .ok true
    | some "false" => .ok false
    | some _ => .error .invalidValue

/-- What the command that makes migrations is given. -/
def readMigration (environment : List (String × String)) (words : List String) :
    Except UsageFault (Bool × MigrationArguments) := do
  let r ← readAll migrationGrammar words
  let r ← withEnvironment environment r environmentOptions
  let seed ← readSeed environment r
  let path := fun name => (r.given.lookup name).map Path.mk
  return ((r.given.lookup "verbose").isSome, {
    config := path "config"
    overrides := {
      schema := path "schema"
      databaseDir := path "database-dir"
      path := r.given.lookup "path"
      templatesDir := path "stubs-dir"
      seed
      seederClass := r.given.lookup "seeder-class"
      dryRun := (r.given.lookup "dry-run").isSome } })

/-- What the command that checks a document is given. -/
def readValidate (words : List String) : Except UsageFault (Bool × Path) := do
  let r ← readAll validateGrammar words
  match r.given.lookup "schema" with
  | some path => return ((r.given.lookup "verbose").isSome, ⟨path⟩)
  | none => .error .missingRequiredArgument

/-- What a request for help comes to: the help itself, unless it names an unknown command. -/
def helpFault : List String → UsageFault
  | [] => .displayHelp
  | [name] => if name ∈ rootGrammar.commands then .displayHelp else .invalidSubcommand
  | _ => .invalidSubcommand

/-- What a command line asks for, given the variables of the environment. -/
def parse (environment : List (String × String)) (words : List String) :
    Except UsageFault Invocation := do
  let (r, command) ← rootGrammar.take {} words
  let verbose := (r.given.lookup "verbose").isSome
  match command with
  | some ("make-migration", rest) => do
    let (more, arguments) ← readMigration environment rest
    return ⟨verbose || more, .makeMigration arguments⟩
  | some ("validate", rest) => do
    let (more, schema) ← readValidate rest
    return ⟨verbose || more, .validate schema⟩
  | some (_, rest) => .error (helpFault rest)
  | none =>
    .error (if r.given.isEmpty then .displayHelpOnMissingArgumentOrSubcommand
      else .missingSubcommand)

end SchemaForge.CommandLine
