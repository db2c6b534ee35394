import SchemaForge.Document.Reader

/-!
# Tables of TOML under construction

A document builds its tables piece by piece. A table has one of three origins: a header or a pair of
braces, a header that names a table inside it, or a dotted key. Which later header or key may add to
a table depends on its origin; whatever may not makes the document malformed. Members stay in the
order in which they come, and a table that its own header follows late moves to the end.
-/

namespace SchemaForge.Document.Toml

/-- Where a table comes from. -/
inductive Origin where
  /-- Its own header, or braces. -/
  | header
  /-- A header that names a table inside it. -/
  | implied
  /-- A dotted key. -/
  | dotted
deriving DecidableEq

/-- A member of a table under construction. -/
inductive Part where
  /-- A finished value. -/
  | value (node : Node)
  /-- A table that may still grow. -/
  | table (origin : Origin) (members : List (String × Part))
  /-- A list of tables, the last of which may still grow. -/
  | tables (elements : List (List (String × Part)))

/-- The members of a table under construction, in order. -/
abbrev Parts := List (String × Part)

/-- The parts with another member under a key that is there. -/
def Parts.replace (parts : Parts) (key : String) (part : Part) : Parts :=
  parts.map fun member => if member.1 = key then (key, part) else member

/-- Follows a path of keys and changes the table that it leads to, where missing tables on the way
are made. `dotted` says whether the path stands in a dotted key; `change` gets to know whether the
table comes from a dotted key. -/
def descend (dotted : Bool) (change : Bool → Parts → Option Parts) :
    Bool → List String → Parts → Option Parts
  | here, [], parts => change here parts
  | _, key :: path, parts =>
    match parts.lookup key with
    | none => do
      let inner ← descend dotted change dotted path []
      return parts ++ [(key, .table (if dotted then .dotted else .implied) inner)]
    | some (.value _) => none
    | some (.tables elements) => do
      let last ← elements.getLast?
      let inner ← descend dotted change false path last
      return parts.replace key (.tables (elements.dropLast ++ [inner]))
    | some (.table origin members) =>
      if dotted ∧ origin = .header then none
      else do
        let inner ← descend dotted change (origin == .dotted) path members
        return parts.replace key (.table origin inner)

/-- Adds the value of a key, which is dotted if its path is not empty. A dotted key cannot reach
into a table that a header implied, and no key may be given twice. -/
def addPair (parts : Parts) (path : List String) (key : String) (value : Part) : Option Parts :=
  descend true
    (fun fromDotted inner =>
      if fromDotted = path.isEmpty ∨ (inner.lookup key).isSome then none
      else some (inner ++ [(key, value)]))
    false path parts

/-- One key of a table with its path and its value. -/
structure Pair where
  /-- The keys that lead to the table of the key. -/
  path : List String
  /-- The last key. -/
  key : String
  /-- The value. -/
  value : Part

/-- Adds pairs in order. -/
def addPairs (parts : Parts) (pairs : List Pair) : Option Parts :=
  pairs.foldlM (fun parts pair => addPair parts pair.path pair.key pair.value) parts

/-- A header with its path, and the pairs below it. -/
structure Section where
  /-- Whether the header adds an element to a list of tables. -/
  element : Bool
  /-- The keys that lead to the table of the header's last key. -/
  path : List String
  /-- The last key of the header. -/
  key : String
  /-- The pairs between this header and the next. -/
  pairs : List Pair

/-- Adds the table of a header to the table that holds it. -/
def Section.addTo (s : Section) (parts : Parts) : Option Parts :=
  if s.element then do
    let inner ← addPairs [] s.pairs
    match parts.lookup s.key with
    | none => return parts ++ [(s.key, .tables [inner])]
    | some (.tables elements) => return parts.replace s.key (.tables (elements ++ [inner]))
    | some _ => none
  else
    match parts.lookup s.key with
    | none => do
      let inner ← addPairs [] s.pairs
      return parts ++ [(s.key, .table .header inner)]
    | some (.table .implied members) => do
      let inner ← addPairs members s.pairs
      return parts.filter (·.1 != s.key) ++ [(s.key, .table .header inner)]
    | some _ => none

/-- The table of a whole document: the pairs before the first header, then header by header. -/
def assemble (pairs : List Pair) (sections : List Section) : Option Parts := do
  let root ← addPairs [] pairs
  sections.foldlM (fun parts s => descend false (fun _ inner => s.addTo inner) false s.path parts)
    root

mutual

/-- The value that a part is met as. -/
def Part.toNode : Part → Node
  | .value node => node
  | .table _ members => .table (membersNode members)
  | .tables elements => .list (elementsNode elements)

/-- The members that parts are met as. -/
def membersNode : List (String × Part) → Members
  | [] => .close
  | (key, part) :: rest => .member (.text key) part.toNode (membersNode rest)

/-- The elements that a list of tables is met as. -/
def elementsNode : List (List (String × Part)) → Items
  | [] => .close
  | members :: rest => .item (.table (membersNode members)) (elementsNode rest)

end

end SchemaForge.Document.Toml
