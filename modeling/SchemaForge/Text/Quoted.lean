import SchemaForge.Text.CharClass.Visible

/-!
# Quoted text in messages

A text shown inside a message is put between double quotes. Quotes, backslashes and the usual
control characters are written with a backslash, other characters that would not be visible by
their code point.
-/

namespace SchemaForge.Text

/-- The written form of one character inside a quoted text. -/
def quotedChar (c : Char) : List Char :=
  match c with
  | '\x00' => ['\\', '0']
  | '\t' => ['\\', 't']
  | '\n' => ['\\', 'n']
  | '\r' => ['\\', 'r']
  | '"' => ['\\', '"']
  | '\\' => ['\\', '\\']
  | _ =>
    if visible.contains c then [c]
    else ['\\', 'u', '{'] ++ Nat.toDigits 16 c.toNat ++ ['}']

/-- A text between double quotes, with every character visible. -/
def quoted (text : String) : String :=
  String.ofList ('"' :: text.toList.flatMap quotedChar ++ ['"'])

end SchemaForge.Text
