/-!
# Paths

A path is a text of names divided by slashes, absolute if it starts with one. Empty names and single
dots inside a path mean nothing, two dots mean the directory above. All operations work on the text
and keep the spelling of what they do not touch.
-/

namespace SchemaForge

/-- A path, as it is written. -/
structure Path where
  /-- The written form. -/
  text : String
deriving DecidableEq, Repr

namespace Path

/-- Whether a path starts at the root. -/
def isAbsolute (p : Path) : Bool := p.text.toList.head? == some '/'

/-- The path of `part` inside `base`: an absolute part stands for itself, and a slash divides the
two unless the base is empty or ends in one. -/
def join (base : Path) (part : String) : Path :=
  if part.toList.head? = some '/' then ⟨part⟩
  else if base.text.toList.getLast?.all (· == '/') then ⟨base.text ++ part⟩
  else ⟨base.text ++ "/" ++ part⟩

/-- Cuts a text at its slashes; the name being read is given reversed. -/
def splitNames (name : List Char) : List Char → List String
  | [] => [String.ofList name.reverse]
  | c :: rest =>
    if c = '/' then String.ofList name.reverse :: splitNames [] rest
    else splitNames (c :: name) rest

/-- The texts between the slashes of a path, empty ones included. -/
def names (p : Path) : List String := splitNames [] p.text.toList

/-- Drops slashes and single dots from the end of a reversed relative text. -/
def dropTrailing : List Char → List Char
  | [] => []
  | '/' :: rest => dropTrailing rest
  | '.' :: '/' :: rest => dropTrailing ('/' :: rest)
  | text => text

/-- The reversed text of a path up to the end of its last name, together with what cannot be dropped
in front of it: the slash of the root or a dot at the start. -/
def body (p : Path) : List Char × List Char :=
  match p.text.toList with
  | '/' :: rest => (['/'], dropTrailing (rest.reverse ++ ['/']))
  | ['.'] => (['.'], [])
  | '.' :: '/' :: rest => (['.'], dropTrailing (rest.reverse ++ ['/']))
  | text => ([], dropTrailing text.reverse)

/-- The last name of a path; a path that ends in the directory above, or has no names, lacks it. -/
def fileName? (p : Path) : Option String :=
  let name := (p.body.2.takeWhile (· != '/')).reverse
  if name = [] ∨ name = ['.', '.'] then none else some (String.ofList name)

/-- The path without its last name. -/
def parent? (p : Path) : Option Path :=
  let (front, tail) := p.body
  if tail = [] then
    if front = ['.'] then some ⟨""⟩ else none
  else
    let rest := dropTrailing (tail.dropWhile (· != '/'))
    some ⟨String.ofList (if front = ['/'] ∧ rest ≠ [] then rest.reverse
      else if rest = [] then front else front ++ rest.reverse)⟩

/-- The part of the last name after its last dot; a name whose only dot comes first has none. -/
def extension? (p : Path) : Option String :=
  p.fileName?.bind fun name =>
    let reversed := name.toList.reverse
    let before := (reversed.dropWhile (· != '.')).drop 1
    if before = [] then none
    else some (String.ofList (reversed.takeWhile (· != '.')).reverse)

end Path

end SchemaForge
