import SchemaForge.Action
import SchemaForge.Storage.Disk
import SchemaForge.Template.Builtin

/-!
# Where templates come from

Templates are the ones that come with the program, or the files of a directory. A source says which
text a name stands for, or why it has none. Every action has a wrapper, whose name is made from the
action's keyword.
-/

namespace SchemaForge.Template

/-- The texts of templates by name. -/
structure Source where
  /-- The text of the template with a given name. -/
  load : String → Except Error String

/-- The file extension of templates. -/
def extension : String := "stub"

/-- The name of a template's file. -/
def fileName (name : String) : String := name ++ "." ++ extension

/-- Where templates are looked up. -/
inductive Origin where
  /-- The program itself. -/
  | builtin
  /-- A directory. -/
  | directory (root : Path)

/-- A description of an origin for people. -/
def Origin.describe : Origin → String
  | builtin => "embedded stubs"
  | directory root => "stubs in " ++ root.text

/-- The path of a template in a directory. -/
def pathIn (root : Path) (name : String) : Path := root.join (fileName name)

/-- The templates that come with the program. -/
def Source.builtin : Source where
  load name :=
    match builtin? name with
    | some text => .ok text
    | none => .error (.templateNotFound name ((Path.mk "<embedded>").join (fileName name)))

/-- The templates in a directory. -/
def Source.directory (d : Disk) (root : Path) : Source where
  load name :=
    match d.read (pathIn root name) with
    | .ok text => .ok text
    | .error .notFound => .error (.templateNotFound name (pathIn root name))
    | .error fault => .error (.fileRead (pathIn root name) fault.message)

/-- The templates of an origin, as the disk has them. -/
def Origin.source (d : Disk) : Origin → Source
  | builtin => .builtin
  | directory root => .directory d root

/-- The name of an action's wrapper. -/
def wrapperName (a : Action) : String :=
  "schema-" ++ String.ofList (a.keyword.toList.map fun c => if c = Action.separator then '-' else c)

/-- The names of all templates that the program uses. -/
def names : List String := migrationName :: seederName :: Action.all.map wrapperName

/-- A text without the line breaks at its end. -/
def trimBreaks (text : String) : String :=
  String.ofList (text.toList.reverse.dropWhile fun c => c == '\n' || c == '\r').reverse

/-- The wrapper of an action, without the line breaks at its end. -/
def Source.wrapper (source : Source) (a : Action) : Except Error String :=
  (source.load (wrapperName a)).map trimBreaks

end SchemaForge.Template
