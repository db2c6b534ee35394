/-!
# The grammar of command lines

A command takes switches, options with a value, and positional arguments. Options are written with
two dashes and take their value from the same word after an equals sign or from the next word;
switches can also have a short form of one letter, and several short forms can share a word. Two
dashes alone end the options. No switch or option may be given twice.

The value of an option is checked when the next option, or the end of the line, is reached, so a
word that no command knows is reported before an unusable value in front of it.
-/

namespace SchemaForge.CommandLine

/-- Why a command line is refused, or what is shown in the place of running it. -/
inductive UsageFault where
  /-- The help is asked for. -/
  | displayHelp
  /-- The version is asked for. -/
  | displayVersion
  /-- Nothing is given, so the help is shown. -/
  | displayHelpOnMissingArgumentOrSubcommand
  /-- A command is missing. -/
  | missingSubcommand
  /-- A positional argument is missing. -/
  | missingRequiredArgument
  /-- A word is not known. -/
  | unknownArgument
  /-- A word is not the name of a command. -/
  | invalidSubcommand
  /-- A value is missing or unusable. -/
  | invalidValue
  /-- A value is given to a switch. -/
  | tooManyValues
  /-- A switch or option is given twice. -/
  | argumentConflict
deriving DecidableEq, Repr

/-- The name of a fault. -/
def UsageFault.name : UsageFault → String
  | displayHelp => "DisplayHelp"
  | displayVersion => "DisplayVersion"
  | displayHelpOnMissingArgumentOrSubcommand => "DisplayHelpOnMissingArgumentOrSubcommand"
  | missingSubcommand => "MissingSubcommand"
  | missingRequiredArgument => "MissingRequiredArgument"
  | unknownArgument => "UnknownArgument"
  | invalidSubcommand => "InvalidSubcommand"
  | invalidValue => "InvalidValue"
  | tooManyValues => "TooManyValues"
  | argumentConflict => "ArgumentConflict"

/-- The values that an option or positional argument can have. -/
inductive ValueType where
  /-- A path, which is not empty. -/
  | path
  /-- Any text. -/
  | text
deriving DecidableEq, Repr

/-- Whether a text is a value of the type. -/
def ValueType.accepts : ValueType → String → Bool
  | path, value => value != ""
  | text, _ => true

/-- What an argument does. -/
inductive ArgumentKind where
  /-- It asks for the help. -/
  | help
  /-- It asks for the version. -/
  | version
  /-- It turns something on. -/
  | switch
  /-- It has a value. -/
  | option (type : ValueType)
deriving DecidableEq, Repr

/-- An argument that is written with dashes. -/
structure Argument where
  /-- The name after two dashes. -/
  long : String
  /-- The letter after one dash, if there is one. -/
  short : Option Char
  /-- What the argument does. -/
  kind : ArgumentKind
deriving DecidableEq, Repr

/-- What a command takes. -/
structure Grammar where
  /-- The arguments that are written with dashes. -/
  arguments : List Argument
  /-- The positional arguments, in order, with their names. -/
  positionals : List (String × ValueType)
  /-- The names of the commands inside this one. -/
  commands : List String
deriving DecidableEq, Repr

/-- A value that is read and not yet checked. -/
structure Pending where
  /-- The name of the option or positional argument. -/
  name : String
  /-- The values it can have. -/
  type : ValueType
  /-- The value, unless the next word is still to give it. -/
  value : Option String
deriving DecidableEq, Repr

/-- What is read of a command line so far. -/
structure Reading where
  /-- The values by name; a switch that is on has an empty value. -/
  given : List (String × String) := []
  /-- A value that is not yet checked. -/
  pending : Option Pending := none
  /-- How many positional arguments are read. -/
  placed : Nat := 0
deriving DecidableEq, Repr

namespace Reading

/-- Whether an option awaits its value. -/
def awaits (r : Reading) : Bool := r.pending.any fun p => p.value.isNone

/-- Gives a name its value, unless it has one already. -/
def store (r : Reading) (name value : String) : Except UsageFault Reading :=
  if (r.given.lookup name).isSome then .error .argumentConflict
  else .ok { r with given := r.given ++ [(name, value)] }

/-- Gives a name its value after a check of the value. -/
def storeChecked (r : Reading) (name : String) (type : ValueType) (value : String) :
    Except UsageFault Reading := do
  let r ← r.store name value
  if type.accepts value then return r else .error .invalidValue

/-- Checks the value that is not yet checked. -/
def settle (r : Reading) : Except UsageFault Reading :=
  match r.pending with
  | none => .ok r
  | some p =>
    match p.value with
    | none => .error .invalidValue
    | some value => { r with pending := none }.storeChecked p.name p.type value

end Reading

namespace Grammar

/-- Takes an argument that has no value. -/
def takeSwitch (r : Reading) (a : Argument) : Except UsageFault Reading := do
  let r ← r.settle
  match a.kind with
  | .help => .error .displayHelp
  | .version => .error .displayVersion
  | _ => r.store a.long ""

/-- Takes an argument with two dashes, given its name and the value after an equals sign. -/
def takeLong (g : Grammar) (r : Reading) (name : String) (value : Option String) :
    Except UsageFault Reading :=
  match g.arguments.find? (·.long == name), value with
  | none, _ => .error .unknownArgument
  | some a, value =>
    match a.kind, value with
    | .option type, some value => do
      let r ← r.settle
      r.storeChecked name type value
    | .option type, none => do
      let r ← r.settle
      return { r with pending := some ⟨name, type, none⟩ }
    | _, some _ => .error .tooManyValues
    | _, none => takeSwitch r a

/-- Takes the letters after one dash. -/
def takeShort (g : Grammar) (r : Reading) : List Char → Except UsageFault Reading
  | [] => .ok r
  | c :: rest =>
    match g.arguments.find? (·.short == some c) with
    | none => .error .unknownArgument
    | some a => do
      let r ← takeSwitch r a
      g.takeShort r rest

/-- Takes a positional argument. -/
def takePlaced (g : Grammar) (r : Reading) (word : String) : Except UsageFault Reading :=
  match g.positionals[r.placed]? with
  | some (name, type) => do
    let r ← r.settle
    return { r with pending := some ⟨name, type, some word⟩, placed := r.placed + 1 }
  | none => .error (if g.commands.isEmpty then .unknownArgument else .invalidSubcommand)

/-- Takes the words after two dashes alone. -/
def takeTrailing (g : Grammar) (r : Reading) : List String → Except UsageFault Reading
  | [] => .ok r
  | word :: rest =>
    if word ∈ g.commands then .error .unknownArgument
    else do
      let r ← g.takePlaced r word
      g.takeTrailing r rest

/-- The name and value of a word that starts with two dashes. -/
def splitLong (word : List Char) : String × Option String :=
  let name := String.ofList (word.takeWhile (· != '='))
  match word.dropWhile (· != '=') with
  | [] => (name, none)
  | _ :: value => (name, some (String.ofList value))

/-- Takes words up to the name of a command, if the grammar has commands: what is read, and the
command with the words after it. -/
def take (g : Grammar) (r : Reading) :
    List String → Except UsageFault (Reading × Option (String × List String))
  | [] => .ok (r, none)
  | word :: rest =>
    if ¬ r.awaits ∧ word ∈ g.commands then .ok (r, some (word, rest))
    else
      match word.toList with
      | '-' :: '-' :: [] => (g.takeTrailing r rest).map (·, none)
      | '-' :: '-' :: long => do
        let (name, value) := splitLong long
        let r ← g.takeLong r name value
        g.take r rest
      | '-' :: c :: letters => do
        let r ← g.takeShort r (c :: letters)
        g.take r rest
      | _ =>
        match r.pending with
        | some ⟨name, type, none⟩ =>
          g.take { r with pending := some ⟨name, type, some word⟩ } rest
        | _ => do
          let r ← g.takePlaced r word
          g.take r rest

end Grammar

end SchemaForge.CommandLine
