import SchemaForge.Run.Event
import SchemaForge.Run.ValuePattern
import SchemaForge.Text.Blank

/-!
# Filters of log records

A filter is a list of directives with commas between. A directive is a level alone, or a target, a
scope in brackets or both, with an optional level after an equals sign:
`target[span{field}]=level`. The most specific directive that selects a record decides whether the
record is shown.
-/

namespace SchemaForge

/-- What a directive asks of the fields of a record. -/
structure FieldDemand where
  /-- The name of the field. -/
  name : String
  /-- The pattern of its value, if there is one. -/
  value : Option String
deriving DecidableEq, Repr

/-- Selects records, and shows those of them up to a level. -/
structure LogDirective where
  /-- What the target starts with. -/
  target : String
  /-- The span around the record, if one is named. -/
  span : Option String
  /-- The field that the record has, if one is named. -/
  field : Option FieldDemand
  /-- The rank of the last level that is shown. -/
  rank : Nat
deriving DecidableEq, Repr

/-- Which log records are shown. -/
abbrev LogFilter := List LogDirective

namespace LogDirective

/-- The directive that shows every record up to a rank. -/
def upTo (rank : Nat) : LogDirective := ⟨"", none, none, rank⟩

/-- Whether a directive selects a record. No record lies in a span, and only spans are looked at for
the values of fields. -/
def selects (d : LogDirective) (r : LogRecord) : Bool :=
  d.span.isNone && d.target.toList.isPrefixOf r.channel.target.toList &&
    d.field.all fun demand => demand.value.isNone && r.fieldNames.contains demand.name

/-- Whether a directive is at least as specific as another one that selects the same record: by the
length of its target, then by its field. -/
def atLeast (d other : LogDirective) : Bool :=
  if d.target.length = other.target.length then
    match other.field, d.field with
    | none, _ => true
    | some _, none => false
    | some a, some b => decide (a.name ≤ b.name)
  else decide (other.target.length < d.target.length)

/-- The ranks that have names, in any case. -/
def rankNames : List (String × Nat) :=
  [("off", 0), ("error", 1), ("warn", 2), ("info", 3), ("debug", 4), ("trace", 5)]

/-- The rank with a given name or number. -/
def rank? (name : List Char) : Option Nat :=
  let digits := if name.head? = some '+' then name.drop 1 else name
  if digits ≠ [] ∧ digits.all Char.isDigit then
    let value := Document.Json.digitsValue digits
    if value ≤ Level.trace.rank then some value else none
  else rankNames.lookup (String.ofList (name.map Char.toLower))

/-- How many bytes the characters of a text take. -/
def byteLength (text : List Char) : Nat := text.foldl (fun n c => n + c.utf8Size) 0

/-- The characters that start at the bytes from `start` to before `stop`; the text given last starts
at the byte `here`. -/
def bytes (start stop here : Nat) : List Char → List Char
  | [] => []
  | c :: rest =>
    if start ≤ here ∧ here < stop then c :: bytes start stop (here + c.utf8Size) rest
    else bytes start stop (here + c.utf8Size) rest

/-- The rank that a text names from a byte on; nothing there stands for every level. -/
def rankFrom? (text : List Char) (start : Nat) : Option Nat :=
  let name := bytes start (byteLength text) 0 text
  if name = [] then some Level.trace.rank else rank? name

/-- The field that a text between braces asks for. -/
def parseField? (text : List Char) : Option FieldDemand :=
  let name := text.takeWhile (· != '=')
  match text.drop name.length with
  | [] => if name = [] then none else some ⟨String.ofList name, none⟩
  | _ :: rest =>
    let value := rest.takeWhile (· != '=')
    if ValuePattern.isPattern value then some ⟨String.ofList name, some (String.ofList value)⟩
    else none

/-- The rank that is written after the scope; `stop` is the byte at which `rest` starts. -/
def parseRank? (text : List Char) (stop : Nat) (rest : List Char) : Option Nat :=
  match rest with
  | [] => some Level.trace.rank
  | '=' :: _ => rankFrom? text (stop + 1)
  | _ => none

/-- The directive for a target, from inside its brackets on; `start` is the byte at which `rest`
starts. -/
def parseScope? (text : List Char) (target : String) (start : Nat) (rest : List Char) :
    Option LogDirective :=
  let name := rest.takeWhile fun c => c != ']' && c != '{'
  let stop := start + byteLength name
  let span := bytes start stop 0 text
  match rest.drop name.length with
  | ']' :: rest =>
    (parseRank? text (stop + 1) rest).map fun rank =>
      ⟨target, some (String.ofList span), none, rank⟩
  | '{' :: rest =>
    let demand := rest.takeWhile (· != '}')
    let close := stop + 1 + byteLength demand
    match rest.drop demand.length with
    | '}' :: ']' :: rest => do
      let field ← parseField? (bytes (stop + 1) close 0 text)
      let rank ← parseRank? text (close + 2) rest
      return ⟨target, if span = [] then none else some (String.ofList span), some field, rank⟩
    | _ => none
  | _ => none

/-- Whether a character can start a target or a level. -/
def isStart (c : Char) : Bool := c == '-' || c == ':' || c == '_' || Text.alphanumeric.contains c

/-- One directive, if it is well formed. Its parts are found in the text without the white space
around it, and then taken from the same bytes of the text with it, so white space at the start moves
all parts. A target without a level shows every record. -/
def parse? (text : List Char) : Option LogDirective :=
  let trimmed := Text.trim text
  let name := trimmed.takeWhile fun c => c != '=' && c != '['
  let stop := byteLength name
  let target := String.ofList (bytes 0 stop 0 text)
  if name.head?.all isStart then
    match trimmed.drop name.length with
    | [] =>
      if name = [] then none
      else
        match rank? text with
        | some rank => some (upTo rank)
        | none => some ⟨String.ofList text, none, none, Level.trace.rank⟩
    | '[' :: rest => parseScope? text target (stop + 1) rest
    | _ => if name = [] then none else (rankFrom? text (stop + 1)).map (⟨target, none, none, ·⟩)
  else none

end LogDirective

namespace LogFilter

/-- The filter that shows every record up to a level. -/
def upTo (level : Level) : LogFilter := [.upTo level.rank]

/-- The parts of a text between its commas, without the empty ones. -/
def splitCommas (part : List Char) : List Char → List (List Char)
  | [] => if part.isEmpty then [] else [part.reverse]
  | ',' :: rest => if part.isEmpty then splitCommas [] rest else part.reverse :: splitCommas [] rest
  | c :: rest => splitCommas (c :: part) rest

/-- The filter that a text describes, if it is well formed. -/
def parse? (text : String) : Option LogFilter :=
  (splitCommas [] text.toList).mapM LogDirective.parse?

/-- The directive that decides about a record: the last of the most specific ones that select it. -/
def decisive? (f : LogFilter) (r : LogRecord) : Option LogDirective :=
  (f.filter (·.selects r)).foldl (fun best d =>
    if best.all d.atLeast then some d else best) none

/-- Whether a record is shown. -/
def shows (f : LogFilter) (r : LogRecord) : Bool :=
  (f.decisive? r).any fun d => r.level.rank ≤ d.rank

end LogFilter

end SchemaForge
