/-!
# Searching and replacing

Plain search in a text, from left to right and without overlaps. `cut` splits a text at the first
occurrence of a pattern, `replaceAll` puts a value in the place of every occurrence.
-/

namespace SchemaForge.Text

/-- The parts of a text before and after the first occurrence of a pattern. -/
def cut (pattern : List Char) : List Char → Option (List Char × List Char)
  | [] => if pattern.isEmpty then some ([], []) else none
  | c :: rest =>
    if pattern.isPrefixOf (c :: rest) then
      some ([], (c :: rest).drop pattern.length)
    else
      (cut pattern rest).map fun parts => (c :: parts.1, parts.2)

/-- Whether a pattern occurs in a text. -/
def occurs (pattern text : List Char) : Bool := (cut pattern text).isSome

/-- Replaces every occurrence of a pattern, where the first `skip` characters still belong to an
occurrence that is already replaced. -/
def replaceFrom (pattern value : List Char) : Nat → List Char → List Char
  | _, [] => []
  | skip + 1, _ :: rest => replaceFrom pattern value skip rest
  | 0, c :: rest =>
    if pattern.isPrefixOf (c :: rest) then
      value ++ replaceFrom pattern value (pattern.length - 1) rest
    else
      c :: replaceFrom pattern value 0 rest

/-- Replaces every occurrence of a pattern that has at least one character. -/
def replaceAll (pattern value text : List Char) : List Char :=
  replaceFrom pattern value 0 text

end SchemaForge.Text
