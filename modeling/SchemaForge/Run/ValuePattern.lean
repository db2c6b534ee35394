import SchemaForge.Document.Json.Number
import SchemaForge.Text.CharClass.Alphanumeric

/-!
# Patterns for the values of fields

A log filter may ask for the value of a field, by a number or by a regular expression. `isPattern`
says whether a text is one of the two. A value holds neither a comma nor a closing brace, which end
it, so a counted repetition is never complete. Edges of words are not among the expressions, since
the matcher reads byte by byte.
-/

namespace SchemaForge.ValuePattern

/-- What a backslash and the characters after it stand for. -/
inductive Escape where
  /-- A character. -/
  | literal (c : Char)
  /-- A set of characters. -/
  | set
  /-- The start or the end of the text. -/
  | anchor
deriving DecidableEq, Repr

/-- The character whose code has the given number of hexadecimal digits, and what follows. -/
def takeCode? (count : Nat) (text : List Char) : Option (Escape × List Char) := do
  let digits := text.take count
  let code ← digits.foldlM (fun n c =>
    let digit := c.toLower
    if digit.isDigit then some (16 * n + (digit.toNat - '0'.toNat))
    else if 'a' ≤ digit ∧ digit ≤ 'f' then some (16 * n + (digit.toNat - 'a'.toNat + 10))
    else none) 0
  if digits.length = count ∧ (code < 0xD800 ∨ 0xDFFF < code ∧ code < 0x110000) then
    some (.literal (Char.ofNat code), text.drop count)
  else none

/-- The letters that name a set of characters. -/
def setLetters : List Char := ['d', 'D', 's', 'S', 'w', 'W']

/-- The letters that name a control character, with its code. -/
def controlLetters : List (Char × Nat) :=
  [('a', 7), ('f', 12), ('t', 9), ('n', 10), ('r', 13), ('v', 11)]

/-- The letters that name a class of characters after `\p`. -/
def categoryLetters : List Char := ['c', 'l', 'm', 'n', 'p', 's', 'z']

/-- The meaning of the characters after a backslash, and what follows. -/
def takeEscape? (text : List Char) : Option (Escape × List Char) :=
  match text with
  | [] => none
  | 'x' :: rest => takeCode? 2 rest
  | 'u' :: rest => takeCode? 4 rest
  | 'U' :: rest => takeCode? 8 rest
  | 'A' :: rest => some (.anchor, rest)
  | 'z' :: rest => some (.anchor, rest)
  | c :: rest =>
    if c = 'p' ∨ c = 'P' then
      match rest with
      | letter :: rest => if letter.toLower ∈ categoryLetters then some (.set, rest) else none
      | [] => none
    else if c ∈ setLetters then some (.set, rest)
    else
      match controlLetters.lookup c with
      | some code => some (.literal (Char.ofNat code), rest)
      | none =>
        if c.toNat < 0x80 ∧ ¬ c.isAlphanum ∧ c ≠ '<' ∧ c ≠ '>' then some (.literal c, rest)
        else none

/-- The names of sets that are written between colons. -/
def setNames : List String :=
  ["alnum", "alpha", "ascii", "blank", "cntrl", "digit", "graph", "lower", "print", "punct",
    "space", "upper", "word", "xdigit"]

/-- What follows a named set, whose opening bracket is already read. -/
def takeNamedSet? (text : List Char) : Option (List Char) :=
  match text with
  | ':' :: rest =>
    let rest := if rest.head? = some '^' then rest.drop 1 else rest
    match rest.dropWhile (· != ':') with
    | ':' :: ']' :: after =>
      if String.ofList (rest.takeWhile (· != ':')) ∈ setNames then some after else none
    | _ => none
  | _ => none

/-- The elements of a set, whose opening bracket is already read. Hyphens at the start, or else one
closing bracket, stand for themselves. -/
def openSet (text : List Char) : List Char :=
  let text := if text.head? = some '^' then text.drop 1 else text
  match text with
  | ']' :: rest => rest
  | _ => text.dropWhile (· == '-')

/-- The element of a set at the start of a text, and what follows. -/
def takeElement? (text : List Char) : Option (Escape × List Char) :=
  match text with
  | [] => none
  | '\\' :: rest => takeEscape? rest
  | c :: rest => some (.literal c, rest)

/-- What follows an element of a set or a range between two characters. -/
def takeRange? (text : List Char) : Option (List Char) := do
  let (first, rest) ← takeElement? text
  match rest with
  | '-' :: after =>
    if after.head? = some ']' ∨ after.head? = some '-' then
      if first = .anchor then none else some rest
    else
      let (last, rest) ← takeElement? after
      match first, last with
      | .literal a, .literal b => if a ≤ b then some rest else none
      | _, _ => none
  | _ => if first = .anchor then none else some rest

/-- What follows the sets that are open, `depth` within each other. The first argument bounds the
number of elements. -/
def closeSet? : Nat → Nat → List Char → Option (List Char)
  | 0, _, _ => none
  | fuel + 1, depth, text =>
    match text with
    | [] => none
    | ']' :: rest => if depth ≤ 1 then some rest else closeSet? fuel (depth - 1) rest
    | '[' :: rest =>
      match takeNamedSet? rest with
      | some rest => closeSet? fuel depth rest
      | none => closeSet? fuel (depth + 1) (openSet rest)
    | '&' :: '&' :: rest => closeSet? fuel depth rest
    | '-' :: '-' :: rest => closeSet? fuel depth rest
    | '~' :: '~' :: rest => closeSet? fuel depth rest
    | text => (takeRange? text).bind (closeSet? fuel depth)

/-- What a question mark after an opening parenthesis introduces. -/
inductive Group where
  /-- A group with a name. -/
  | named (name : List Char)
  /-- A group without one. -/
  | plain
  /-- Flags for the rest of the group around them. -/
  | flags
deriving DecidableEq, Repr

/-- Whether a character may stand in the name of a group. -/
def isNameChar (c : Char) : Bool :=
  c == '_' || c == '.' || c == '[' || c == ']' || Text.alphanumeric.contains c

/-- Whether a text is the name of a group. -/
def isName (name : List Char) : Bool :=
  name.all isNameChar && name.head?.any fun c =>
    c == '_' || Text.alphanumeric.contains c && !c.isDigit

/-- The letters of flags, and the hyphen before flags to clear. -/
def flagChars : List Char := ['i', 'm', 's', 'U', 'u', 'R', 'x', '-']

/-- Whether a text lists flags, each once: those to set, and after a hyphen those to clear. White
space and number signs stand for themselves also after the flag `x`. -/
def areFlags (text : List Char) : Bool :=
  (text.all fun c => flagChars.contains c && text.count c == 1) && text.getLast? != some '-'

/-- What the text after a parenthesis and a question mark introduces, and what follows. -/
def takeGroup? (text : List Char) : Option (Group × List Char) :=
  let named (rest : List Char) : Option (Group × List Char) :=
    let name := rest.takeWhile (· != '>')
    match rest.drop name.length with
    | '>' :: rest => if isName name then some (.named name, rest) else none
    | _ => none
  match text with
  | 'P' :: '<' :: rest => named rest
  | '<' :: rest => named rest
  | _ =>
    let flags := text.takeWhile fun c => c != ':' && c != ')'
    match text.drop flags.length with
    | ':' :: rest => if areFlags flags then some (.plain, rest) else none
    | ')' :: rest => if areFlags flags ∧ flags ≠ [] then some (.flags, rest) else none
    | _ => none

/-- Whether a text goes on a regular expression in which `depth` groups are open and `names` are
taken; `repeatable` says whether the expression ends in something that can be repeated. The first
argument bounds the number of parts. -/
def goesOn : Nat → Nat → Bool → List (List Char) → List Char → Bool
  | 0, _, _, _, _ => false
  | fuel + 1, depth, repeatable, names, text =>
    match text with
    | [] => depth == 0
    | '\\' :: rest => (takeEscape? rest).any fun parts => goesOn fuel depth true names parts.2
    | '[' :: rest =>
      (closeSet? (rest.length + 1) 1 (openSet rest)).any (goesOn fuel depth true names)
    | '(' :: '?' :: rest =>
      match takeGroup? rest with
      | some (.named name, rest) =>
        !names.contains name && goesOn fuel (depth + 1) false (name :: names) rest
      | some (.plain, rest) => goesOn fuel (depth + 1) false names rest
      | some (.flags, rest) => goesOn fuel depth false names rest
      | none => false
    | '(' :: rest => goesOn fuel (depth + 1) false names rest
    | ')' :: rest => decide (0 < depth) && goesOn fuel (depth - 1) true names rest
    | '|' :: rest => goesOn fuel depth false names rest
    | '{' :: _ => false
    | c :: rest =>
      (repeatable || c != '*' && c != '+' && c != '?') && goesOn fuel depth true names rest

/-- The numbers that have names. -/
def specialNumbers : List String := ["inf", "infinity", "nan"]

/-- Whether a text is a number without a sign. -/
def isNumber (text : List Char) : Bool :=
  let whole := text.takeWhile Char.isDigit
  let rest := text.drop whole.length
  let fraction :=
    match rest with
    | '.' :: rest => rest.takeWhile Char.isDigit
    | _ => []
  let rest := if rest.head? = some '.' then rest.drop (fraction.length + 1) else rest
  decide (String.ofList (text.map Char.toLower) ∈ specialNumbers) ||
    !(whole ++ fraction).isEmpty &&
      (Document.Json.takeExponent? rest).any fun parts => parts.2.isEmpty

/-- Whether a text is a number or a regular expression. Only numbers with a plus sign are not also
regular expressions. -/
def isPattern (text : List Char) : Bool :=
  goesOn (text.length + 1) 0 false [] text ||
    match text with
    | '+' :: rest => isNumber rest
    | _ => false

end SchemaForge.ValuePattern
