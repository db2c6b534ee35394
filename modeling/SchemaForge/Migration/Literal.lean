import SchemaForge.Text.Search

/-!
# String literals of migrations

The two literal forms that generated code uses. A single-quoted literal escapes the quote and the
backslash; a double-quoted one escapes the quote, the backslash and the dollar sign, which would
start a variable.
-/

namespace SchemaForge.Literal

/-- Writes a backslash before every character that `special` names. -/
def escape (special : Char → Bool) (text : List Char) : List Char :=
  text.flatMap fun c => if special c then ['\\', c] else [c]

/-- The characters that a double-quoted literal escapes. -/
def doubleSpecial (c : Char) : Bool := c == '\\' || c == '"' || c == '$'

/-- A text as a single-quoted literal: every backslash gets one in front first, then every quote. -/
def singleQuoted (text : String) : String :=
  let backslashes := Text.replaceAll ['\\'] ['\\', '\\'] text.toList
  String.ofList ('\'' :: Text.replaceAll ['\''] ['\\', '\''] backslashes ++ ['\''])

/-- A text as a double-quoted literal. -/
def doubleQuoted (text : String) : String :=
  String.ofList ('"' :: escape doubleSpecial text.toList ++ ['"'])

end SchemaForge.Literal
