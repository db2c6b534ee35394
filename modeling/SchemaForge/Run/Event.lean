/-!
# Events

What a command tells while it works, in order: lines for people on the console, and log records with
a level, a message and fields. Log records come from channels, by which a filter can select them.
-/

namespace SchemaForge

/-- How important a log record is. -/
inductive Level where
  /-- Something failed. -/
  | error
  /-- Something is wrong but nothing failed. -/
  | warn
  /-- Something happened. -/
  | info
  /-- Something helps to understand what happened. -/
  | debug
  /-- Every detail. -/
  | trace
deriving DecidableEq, Repr

namespace Level

/-- The rank of a level: the more important, the lower. -/
def rank : Level → Nat
  | error => 1
  | warn => 2
  | info => 3
  | debug => 4
  | trace => 5

/-- The name of a level in a log line. -/
def label : Level → String
  | error => "ERROR"
  | warn => "WARN"
  | info => "INFO"
  | debug => "DEBUG"
  | trace => "TRACE"

end Level

/-- The part of the program that a log record comes from. -/
inductive Channel where
  /-- The start of the program. -/
  | program
  /-- The commands. -/
  | commands
  /-- The reading of settings. -/
  | settings
  /-- The generation of files. -/
  | run
  /-- The rendering of migrations. -/
  | rendering
deriving DecidableEq, Repr

/-- The name by which a log filter selects a channel. -/
def Channel.target : Channel → String
  | program => "stubsmith"
  | commands => "stubsmith_cli"
  | settings => "stubsmith_cli::config"
  | run => "stubsmith_cli::make_migration"
  | rendering => "stubsmith_codegen::synthesizer"

/-- A log record. -/
structure LogRecord where
  /-- How important the record is. -/
  level : Level
  /-- Where it comes from. -/
  channel : Channel
  /-- What happened. -/
  message : String
  /-- Details by name, in order. -/
  fields : List (String × String)
deriving DecidableEq, Repr

/-- The names of the fields of a record; the message is one of them. -/
def LogRecord.fieldNames (r : LogRecord) : List String := "message" :: r.fields.map (·.1)

/-- Something that a command tells. -/
inductive Event where
  /-- A progress line. -/
  | info (message : String)
  /-- A note about something that is left as it is. -/
  | comment (message : String)
  /-- An error line. -/
  | failure (message : String)
  /-- A line of a listing. -/
  | item (text : String)
  /-- A text that is printed as it is. -/
  | output (text : String)
  /-- A log record. -/
  | log (record : LogRecord)
deriving DecidableEq, Repr

end SchemaForge
