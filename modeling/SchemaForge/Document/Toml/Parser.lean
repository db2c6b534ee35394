import SchemaForge.Document.Toml.Date
import SchemaForge.Document.Toml.Number
import SchemaForge.Document.Toml.Table

/-!
# Reading TOML

`parse` turns the text of a TOML document into a node; a text that is not well formed, or that gives
a key twice, has none. Arrays and inline tables may be nested 79 deep. `decode` reads a value from a
document.
-/

namespace SchemaForge.Document.Toml

/-- How deep arrays and inline tables may be nested, and how many keys a dotted key may have. -/
def maxDepth : Nat := 79

/-- Whether a character may stand in a key without quotes. -/
def isKeyChar (c : Char) : Bool := c.isAlphanum || c == '_' || c == '-'

/-- A text without the comment at its start; none if the comment holds a control character. -/
def skipComment? (text : List Char) : Option (List Char) :=
  match text with
  | '#' :: rest =>
    let after := rest.dropWhile isPlain
    if after.isEmpty ∨ (takeBreak? after).isSome then some after else none
  | rest => some rest

/-- What follows the end of a line, which may have blanks and a comment. -/
def takeLineEnd? (text : List Char) : Option (List Char) := do
  let rest ← skipComment? (skipBlanks text)
  if rest.isEmpty then return [] else takeBreak? rest

/-- A text without the blanks, line breaks and comments at its start. The first argument bounds
their number. -/
def skipLines? : Nat → List Char → Option (List Char)
  | 0, text => some text
  | fuel + 1, text => do
    let rest ← skipComment? (skipBlanks text)
    match takeBreak? rest with
    | some after => skipLines? fuel after
    | none => return rest

/-- One key without dots at the start of a text, and what follows. -/
def takeSimpleKey? (text : List Char) : Option (String × List Char) :=
  match text with
  | '"' :: rest => (takeBasic? 0 rest).map fun parts => (String.ofList parts.1, parts.2)
  | '\'' :: rest => (takeLiteral? rest).map fun parts => (String.ofList parts.1, parts.2)
  | rest =>
    let name := rest.takeWhile isKeyChar
    if name.isEmpty then none else some (String.ofList name, rest.dropWhile isKeyChar)

/-- The keys of a dotted key at the start of a text, with the blanks around them, and what follows.
The first argument bounds their number. -/
def takeKeys? : Nat → List Char → Option (List String × List Char)
  | 0, _ => none
  | fuel + 1, text => do
    let (key, rest) ← takeSimpleKey? (skipBlanks text)
    match skipBlanks rest with
    | '.' :: after => do
      let (keys, rest) ← takeKeys? fuel after
      return (key :: keys, rest)
    | rest => return ([key], rest)

/-- A dotted key as the path to its last key, and that key. -/
def splitKeys? (keys : List String) : Option (List String × String) :=
  keys.getLast?.map fun last => (keys.dropLast, last)

/-- A value that has no parts, at the start of a text, and what follows. -/
def takeScalar? (text : List Char) : Option (Node × List Char) :=
  match text with
  | 't' :: 'r' :: 'u' :: 'e' :: rest => some (.flag true, rest)
  | 'f' :: 'a' :: 'l' :: 's' :: 'e' :: rest => some (.flag false, rest)
  | c :: _ =>
    if c = '"' ∨ c = '\'' then
      (takeText? text).map fun parts => (.text (String.ofList parts.1), parts.2)
    else
      match takeMoment? text with
      | some (written, rest) => some (momentNode written, rest)
      | none => (takeReal? text).or (takeInteger? text)
  | [] => none

mutual

/-- The value at the start of a text, where `depth` more arrays and inline tables may be opened, and
what follows. The first argument bounds the number of values. -/
def takeValue? : Nat → Nat → List Char → Option (Node × List Char)
  | 0, _, _ => none
  | fuel + 1, depth, text =>
    match text, depth with
    | '[' :: rest, depth + 1 => do
      let rest ← skipLines? rest.length rest
      match rest with
      | ']' :: rest => return (.list .close, rest)
      | rest => do
        let (items, rest) ← takeItems? fuel depth rest
        return (.list items, rest)
    | '{' :: rest, depth + 1 =>
      match skipBlanks rest with
      | '}' :: rest => some (.table .close, rest)
      | rest => do
        let (pairs, rest) ← takePairs? fuel depth rest
        let parts ← addPairs [] pairs
        return (.table (membersNode parts), rest)
    | text, _ => takeScalar? text

/-- The elements of an array from the next one on, and what follows the array. -/
def takeItems? : Nat → Nat → List Char → Option (Items × List Char)
  | 0, _, _ => none
  | fuel + 1, depth, text => do
    let (value, rest) ← takeValue? fuel depth text
    let rest ← skipLines? rest.length rest
    match rest with
    | ']' :: rest => return (.item value .close, rest)
    | ',' :: rest => do
      let rest ← skipLines? rest.length rest
      match rest with
      | ']' :: rest => return (.item value .close, rest)
      | rest => do
        let (items, rest) ← takeItems? fuel depth rest
        return (.item value items, rest)
    | _ => none

/-- The pairs of an inline table from the next one on, and what follows the table. -/
def takePairs? : Nat → Nat → List Char → Option (List Pair × List Char)
  | 0, _, _ => none
  | fuel + 1, depth, text => do
    let (keys, rest) ← takeKeys? maxDepth text
    let (path, key) ← splitKeys? keys
    let rest ← takeChar? '=' rest
    let (value, rest) ← takeValue? fuel depth (skipBlanks rest)
    match skipBlanks rest with
    | '}' :: rest => return ([⟨path, key, .value value⟩], rest)
    | ',' :: rest => do
      let (pairs, rest) ← takePairs? fuel depth rest
      return (⟨path, key, .value value⟩ :: pairs, rest)
    | _ => none

end

/-- A key with its value and the end of the line, and what follows. -/
def takePair? (text : List Char) : Option (Pair × List Char) := do
  let (keys, rest) ← takeKeys? maxDepth text
  let (path, key) ← splitKeys? keys
  let rest ← takeChar? '=' rest
  let (value, rest) ← takeValue? (2 * rest.length + 1) maxDepth (skipBlanks rest)
  return (⟨path, key, .value value⟩, ← takeLineEnd? rest)

/-- The key pairs up to the next header, and what follows. The first argument bounds their
number. -/
def takeBody? : Nat → List Char → Option (List Pair × List Char)
  | 0, _ => none
  | fuel + 1, text => do
    let rest ← skipLines? text.length text
    if rest.isEmpty ∨ rest.head? = some '[' then return ([], rest)
    else do
      let (pair, rest) ← takePair? rest
      let (pairs, rest) ← takeBody? fuel rest
      return (pair :: pairs, rest)

/-- The header at the start of a text and what follows its line: whether it adds an element to a
list of tables, and its keys. -/
def takeHeader? (text : List Char) : Option ((Bool × List String) × List Char) :=
  match text with
  | '[' :: '[' :: rest => do
    let (keys, rest) ← takeKeys? maxDepth rest
    let rest ← takeChar? ']' rest
    let rest ← takeChar? ']' rest
    return ((true, keys), ← takeLineEnd? rest)
  | '[' :: rest => do
    let (keys, rest) ← takeKeys? maxDepth rest
    let rest ← takeChar? ']' rest
    return ((false, keys), ← takeLineEnd? rest)
  | _ => none

/-- The sections of a text that starts with a header or is empty. The first argument bounds their
number. -/
def takeSections? : Nat → List Char → Option (List Section)
  | 0, _ => none
  | fuel + 1, text =>
    if text.isEmpty then some []
    else do
      let ((element, keys), rest) ← takeHeader? text
      let (path, key) ← splitKeys? keys
      let (pairs, rest) ← takeBody? (rest.length + 1) rest
      let sections ← takeSections? fuel rest
      return ⟨element, path, key, pairs⟩ :: sections

/-- A text without the byte order mark at its start. -/
def dropMark : List Char → List Char
  | '\uFEFF' :: rest => rest
  | text => text

/-- The value of a document, if it is well formed. -/
def parse (text : String) : Option Node := do
  let text := dropMark text.toList
  let (pairs, rest) ← takeBody? (text.length + 1) text
  let sections ← takeSections? (rest.length + 1) rest
  return .table (membersNode (← assemble pairs sections))

/-- Reads a value from the text of a document. -/
def decode {α : Type} (read : Reader α) (text : String) : Except Fault α :=
  match parse text with
  | some node => read node
  | none => .error .malformed

end SchemaForge.Document.Toml
