import SchemaForge.Document.Json.Text

/-!
# Texts of TOML

TOML has four written forms of a text: between single or double quotes, on one line or, with three
quotes on each side, over several. Only the double-quoted forms know escapes. A text over several
lines loses a line break right after its opening quotes, may hold up to two quotes in a row, and a
backslash at the end of a line joins the line to the next text.
-/

namespace SchemaForge.Document.Toml

/-- The blank characters inside a line. -/
def isBlankChar (c : Char) : Bool := c == ' ' || c == '\t'

/-- A text without the blanks at its start. -/
def skipBlanks (text : List Char) : List Char := text.dropWhile isBlankChar

/-- A text without the line break at its start, if there is one. -/
def takeBreak? : List Char → Option (List Char)
  | '\n' :: rest => some rest
  | '\r' :: '\n' :: rest => some rest
  | _ => none

/-- Whether a character may stand in a comment: a tab or anything that is not a control
character. -/
def isPlain (c : Char) : Bool :=
  c == '\t' || (0x20 ≤ c.toNat && c.toNat ≠ 0x7F)

/-- The value of hexadecimal digits, if all of them are such. -/
def hexValue? (digits : List Char) : Option Nat :=
  digits.foldlM (fun n c => (Json.hexValue? c).map (16 * n + ·)) 0

/-- The character with a given code, if there is one. -/
def scalar? (code : Nat) : Option Char :=
  if code.isValidChar then some (Char.ofNat code) else none

/-- The character that a backslash and one more character stand for. -/
def escaped? : Char → Option Char
  | '"' => some '"'
  | '\\' => some '\\'
  | 'b' => some '\x08'
  | 'f' => some '\x0c'
  | 'n' => some '\n'
  | 'r' => some '\r'
  | 't' => some '\t'
  | _ => none

/-- A text that starts with the character after a backslash, read as one escape. -/
def takeEscape? (text : List Char) : Option (Char × Nat) :=
  match text with
  | 'u' :: rest => do
    let digits := rest.take 4
    if digits.length < 4 then none
    else return (← scalar? (← hexValue? digits), 5)
  | 'U' :: rest => do
    let digits := rest.take 8
    if digits.length < 8 then none
    else return (← scalar? (← hexValue? digits), 9)
  | c :: _ => (escaped? c).map (·, 1)
  | [] => none

/-- The characters of a double-quoted text on one line, up to its closing quote, and what follows
it; the first `skip` characters still belong to an escape that is already read. -/
def takeBasic? : Nat → List Char → Option (List Char × List Char)
  | _, [] => none
  | skip + 1, _ :: rest => takeBasic? skip rest
  | 0, c :: rest =>
    if c = '"' then some ([], rest)
    else if c = '\\' then do
      let (escaped, length) ← takeEscape? rest
      let (characters, rest) ← takeBasic? length rest
      return (escaped :: characters, rest)
    else if isPlain c then do
      let (characters, rest) ← takeBasic? 0 rest
      return (c :: characters, rest)
    else none

/-- The characters of a single-quoted text on one line, and what follows its closing quote. -/
def takeLiteral? : List Char → Option (List Char × List Char)
  | [] => none
  | c :: rest =>
    if c = '\'' then some ([], rest)
    else if isPlain c then do
      let (characters, rest) ← takeLiteral? rest
      return (c :: characters, rest)
    else none

/-- If a text starts with the end of a text over several lines in the given quotes: how many quotes
belong to the content, and what follows the closing quotes. -/
def takeEnd? (quote : Char) (text : List Char) : Option (Nat × List Char) :=
  let quotes := (text.takeWhile (· == quote)).length
  if quotes < 3 then none
  else
    let inside := min (quotes - 3) 2
    some (inside, text.drop (inside + 3))

/-- What the reader of a text over several lines does with the characters ahead. -/
inductive Ahead where
  /-- They are read as they stand. -/
  | read
  /-- The given number of them is already read. -/
  | skip (count : Nat)
  /-- Blanks and line breaks among them are dropped. -/
  | trim

/-- The characters of a double-quoted text over several lines, up to its closing quotes, and what
follows them. -/
def takeMultiBasic? : Ahead → List Char → Option (List Char × List Char)
  | _, [] => none
  | .skip (count + 1), _ :: rest => takeMultiBasic? (.skip count) rest
  | ahead, c :: rest =>
    let trimming : Bool := match ahead with
      | .trim => true
      | _ => false
    if trimming ∧ (isBlankChar c ∨ c = '\n') then takeMultiBasic? .trim rest
    else if c = '\r' then
      if rest.head? = some '\n' then takeMultiBasic? (if trimming then .trim else .read) rest
      else none
    else
      match takeEnd? '"' (c :: rest) with
      | some (inside, rest) => some (List.replicate inside '"', rest)
      | none =>
        if c = '\\' then
          if (takeBreak? (skipBlanks rest)).isSome then takeMultiBasic? .trim rest
          else do
            let (escaped, length) ← takeEscape? rest
            let (characters, rest) ← takeMultiBasic? (.skip length) rest
            return (escaped :: characters, rest)
        else if isPlain c ∨ c = '\n' then do
          let (characters, rest) ← takeMultiBasic? .read rest
          return (c :: characters, rest)
        else none

/-- The characters of a single-quoted text over several lines, up to its closing quotes, and what
follows them. -/
def takeMultiLiteral? : List Char → Option (List Char × List Char)
  | [] => none
  | c :: rest =>
    if c = '\r' then
      if rest.head? = some '\n' then takeMultiLiteral? rest else none
    else
      match takeEnd? '\'' (c :: rest) with
      | some (inside, rest) => some (List.replicate inside '\'', rest)
      | none =>
        if isPlain c ∨ c = '\n' then do
          let (characters, rest) ← takeMultiLiteral? rest
          return (c :: characters, rest)
        else none

/-- A text without a line break at its start. -/
def dropBreak (text : List Char) : List Char := (takeBreak? text).getD text

/-- The text in any of its four forms, and what follows it. -/
def takeText? (text : List Char) : Option (List Char × List Char) :=
  match text with
  | '"' :: '"' :: '"' :: rest => takeMultiBasic? .read (dropBreak rest)
  | '\'' :: '\'' :: '\'' :: rest => takeMultiLiteral? (dropBreak rest)
  | '"' :: rest => takeBasic? 0 rest
  | '\'' :: rest => takeLiteral? rest
  | _ => none

end SchemaForge.Document.Toml
