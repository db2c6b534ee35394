/-!
# Joining texts

Texts in a row with a separator between neighbours.
-/

namespace SchemaForge.Text

/-- Texts in a row, with a separator between neighbours. -/
def join (separator : String) : List String → String
  | [] => ""
  | [a] => a
  | a :: b :: rest => a ++ separator ++ join separator (b :: rest)

end SchemaForge.Text
