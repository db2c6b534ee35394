import SchemaForge.Text.Blank

/-!
# Tokens of templates

A token is a name between two pairs of braces, with white space around the name allowed. `scan` cuts
a text into its tokens and the characters between them, from left to right. Since a token holds
braces only at its ends, no two tokens of a text overlap.
-/

namespace SchemaForge.Template

/-- Whether a character can start the name of a token. -/
def isNameStart (c : Char) : Bool := c.isAlpha || c == '_'

/-- Whether a character can go on the name of a token. -/
def isNameChar (c : Char) : Bool := c.isAlphanum || c == '_'

/-- The name at the start of a text, and what follows. -/
def takeName? (text : List Char) : Option (List Char × List Char) :=
  match text with
  | c :: rest =>
    if isNameStart c then some (c :: rest.takeWhile isNameChar, rest.dropWhile isNameChar)
    else none
  | [] => none

/-- The token at the start of a text. -/
def tokenAt? (text : List Char) : Option (List Char) :=
  match text with
  | '{' :: '{' :: rest =>
    match takeName? (rest.dropWhile Text.whiteSpace.contains) with
    | some (name, after) =>
      match after.dropWhile Text.whiteSpace.contains with
      | '}' :: '}' :: _ =>
        some ('{' :: '{' :: rest.takeWhile Text.whiteSpace.contains ++ name ++
          after.takeWhile Text.whiteSpace.contains ++ ['}', '}'])
      | _ => none
    | none => none
  | _ => none

/-- A piece of a text. -/
inductive Piece where
  /-- A character outside of tokens. -/
  | character (c : Char)
  /-- A token, as it is written. -/
  | token (text : List Char)
deriving DecidableEq, Repr

/-- Cuts a text into pieces, where the first `skip` characters still belong to a token that is
already cut. -/
def scanFrom : Nat → List Char → List Piece
  | _, [] => []
  | skip + 1, _ :: rest => scanFrom skip rest
  | 0, c :: rest =>
    match tokenAt? (c :: rest) with
    | some token => .token token :: scanFrom (token.length - 1) rest
    | none => .character c :: scanFrom 0 rest

/-- The pieces of a text, in order. -/
def scan (text : List Char) : List Piece := scanFrom 0 text

/-- The tokens of a text, in order. -/
def tokens (text : List Char) : List (List Char) :=
  (scan text).filterMap fun
    | .token token => some token
    | .character _ => none

end SchemaForge.Template
