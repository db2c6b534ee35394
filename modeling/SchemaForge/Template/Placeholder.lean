import SchemaForge.Error
import SchemaForge.Template.Token
import SchemaForge.Text.Search

/-!
# Placeholders

A placeholder is an insertion point that the program knows. `fill` puts a value in the place of one
placeholder by plain search; `substitute` puts values in the places of several in one pass, so that
a value is never taken for a placeholder itself. `unresolved` lists the tokens that are left in a
text, and a template that leaves any is refused.
-/

namespace SchemaForge.Template

/-- An insertion point. -/
inductive Placeholder where
  /-- The name of the generated class. -/
  | className
  /-- The name of the table. -/
  | table
  /-- The body of the method that makes the change. -/
  | schemaUp
  /-- The body of the method that takes the change back. -/
  | schemaDown
  /-- The body of a seeder. -/
  | content
deriving DecidableEq, Repr

namespace Placeholder

/-- The name between the braces of a placeholder's token. -/
def name : Placeholder → String
  | className => "class"
  | table => "table"
  | schemaUp => "schema_up"
  | schemaDown => "schema_down"
  | content => "content"

/-- The token of a placeholder, which has no white space. -/
def token (p : Placeholder) : List Char := '{' :: '{' :: p.name.toList ++ ['}', '}']

end Placeholder

/-- Puts a value in the place of every occurrence of a placeholder. -/
def fill (text : String) (p : Placeholder) (value : String) : String :=
  String.ofList (Text.replaceAll p.token value.toList text.toList)

/-- What a token becomes: the value of the first listed placeholder with this token, or the token
itself. -/
def resolveToken (values : List (Placeholder × String)) (token : List Char) : List Char :=
  match values.find? fun v => v.1.token == token with
  | some v => v.2.toList
  | none => token

/-- Puts values in the places of placeholders in one pass. -/
def substitute (text : String) (values : List (Placeholder × String)) : String :=
  String.ofList <| (scan text.toList).flatMap fun
    | .character c => [c]
    | .token token => resolveToken values token

/-- The different tokens of a text, in the order in which they first appear. -/
def unresolved (text : String) : List String :=
  (tokens text.toList).eraseDups.map String.ofList

/-- Refuses a text of a template that has tokens left. -/
def ensureResolved (template text : String) : Except Error Unit :=
  if (unresolved text).isEmpty then .ok ()
  else .error (.unresolvedPlaceholder template (unresolved text))

end SchemaForge.Template
