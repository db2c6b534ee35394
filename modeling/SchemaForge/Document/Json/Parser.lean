import SchemaForge.Document.Json.Number
import SchemaForge.Document.Json.Text
import SchemaForge.Document.Reader

/-!
# Reading JSON

`parse` turns the text of a JSON document into a node, which breaks off where the text does.
Containers may be nested 127 deep; a deeper one has no meaning. `decode` reads a value from a
document and then asks that nothing but white space follows.
-/

namespace SchemaForge.Document.Json

/-- The white space of JSON. -/
def isSpace (c : Char) : Bool := c == ' ' || c == '\n' || c == '\t' || c == '\r'

/-- A text without the white space at its start. -/
def skipSpace (text : List Char) : List Char := text.dropWhile isSpace

/-- How deep containers may be nested. -/
def maxDepth : Nat := 127

/-- A node that stands for a whole container only if one more level of nesting is allowed. -/
def atDepth (depth : Nat) (node : Node) (rest : Option (List Char)) : Node :=
  if depth = 0 then (if rest.isSome then .unreadable else .broken) else node

/-- A null, a truth value or a number at the start of a text, and the rest of the text. -/
def takeScalar (text : List Char) : Node × Option (List Char) :=
  match text with
  | 'n' :: 'u' :: 'l' :: 'l' :: rest => (.null, some rest)
  | 't' :: 'r' :: 'u' :: 'e' :: rest => (.flag true, some rest)
  | 'f' :: 'a' :: 'l' :: 's' :: 'e' :: rest => (.flag false, some rest)
  | text =>
    match takeNumeral? text with
    | some (n, rest) => (n.toNode, some rest)
    | none => (.broken, none)

/-- A text after its opening quote, and what follows its closing quote. -/
def takeText (text : List Char) : Node × Option (List Char) :=
  match takeCodes? text with
  | some (codes, rest) =>
    match pairCodes? codes with
    | some characters => (.text (String.ofList characters), some rest)
    | none => (.unreadable, some rest)
  | none => (.broken, none)

mutual

/-- The value at the start of a text, where `depth` more containers may be opened, and the rest of
the text unless it breaks off. The first argument bounds the number of values. -/
def takeValue : Nat → Nat → List Char → Node × Option (List Char)
  | 0, _, _ => (.broken, none)
  | fuel + 1, depth, text =>
    match skipSpace text with
    | '"' :: rest => takeText rest
    | '[' :: rest =>
      let (items, rest) :=
        match skipSpace rest with
        | ']' :: rest => (.close, some rest)
        | rest => takeItems fuel (depth - 1) rest
      (atDepth depth (.list items) rest, rest)
    | '{' :: rest =>
      let (members, rest) :=
        match skipSpace rest with
        | '}' :: rest => (.close, some rest)
        | rest => takeMembers fuel (depth - 1) rest
      (atDepth depth (.table members) rest, rest)
    | text => takeScalar text

/-- The elements of a list from the next one on, and what follows the list. -/
def takeItems : Nat → Nat → List Char → Items × Option (List Char)
  | 0, _, _ => (.broken, none)
  | fuel + 1, depth, text =>
    let (value, rest) := takeValue fuel depth text
    match rest.map skipSpace with
    | some (']' :: rest) => (.item value .close, some rest)
    | some (',' :: rest) =>
      let (items, rest) := takeItems fuel depth rest
      (.item value items, rest)
    | _ => (.item value .broken, none)

/-- The members of a table from the next one on, and what follows the table. -/
def takeMembers : Nat → Nat → List Char → Members × Option (List Char)
  | 0, _, _ => (.broken, none)
  | fuel + 1, depth, text =>
    match skipSpace text with
    | '"' :: rest =>
      let (key, rest) := takeText rest
      match rest.map skipSpace with
      | some (':' :: rest) =>
        let (value, rest) := takeValue fuel depth rest
        match rest.map skipSpace with
        | some ('}' :: rest) => (.member key value .close, some rest)
        | some (',' :: rest) =>
          let (members, rest) := takeMembers fuel depth rest
          (.member key value members, rest)
        | _ => (.member key value .broken, none)
      | _ => (.member key .broken .broken, none)
    | _ => (.broken, none)

end

/-- The value of a document, and whether nothing but white space follows it. -/
def parse (text : String) : Node × Bool :=
  let (node, rest) := takeValue (2 * text.length + 1) maxDepth text.toList
  (node, rest.any fun rest => (skipSpace rest).isEmpty)

/-- Reads a value from the text of a document. -/
def decode {α : Type} (read : Reader α) (text : String) : Except Fault α := do
  let (node, complete) := parse text
  let value ← read node
  if complete then return value else .error .malformed

end SchemaForge.Document.Json
