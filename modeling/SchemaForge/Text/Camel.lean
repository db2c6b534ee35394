import SchemaForge.Text.CaseMap
import SchemaForge.Text.CharClass.Alphanumeric
import SchemaForge.Text.CharClass.Lowercase
import SchemaForge.Text.CharClass.Uppercase

/-!
# Upper camel case

A text is cut into words: everything but letters and digits separates words, a small letter before a
capital ends a word, and the last capital of a run of capitals starts one when a small letter
follows. `upperCamel` writes each word with a capital first letter and small letters after it, and
joins the words.
-/

namespace SchemaForge.Text

/-- What the letters of a word ended in so far. -/
inductive Hump where
  /-- The word has no letter with case yet. -/
  | fresh
  /-- The last letter with case was small. -/
  | small
  /-- The last letter with case was a capital. -/
  | capital
deriving DecidableEq, Repr

/-- The state of a word after one more character; characters without case leave it alone. -/
def Hump.after (h : Hump) (c : Char) : Hump :=
  if lowercase.contains c then .small else if uppercase.contains c then .capital else h

/-- Cuts a run of letters and digits at its changes of case. The word being read is given
reversed. -/
def humps (h : Hump) (word : List Char) : List Char → List (List Char)
  | [] => if word.isEmpty then [] else [word.reverse]
  | [c] => [(c :: word).reverse]
  | c :: d :: rest =>
    if h.after c = .small ∧ uppercase.contains d then
      (c :: word).reverse :: humps .fresh [] (d :: rest)
    else if h = .capital ∧ uppercase.contains c ∧ lowercase.contains d then
      word.reverse :: humps .fresh [c] (d :: rest)
    else
      humps (h.after c) (c :: word) (d :: rest)

/-- The runs of letters and digits of a text, in order; the run being read is given reversed. -/
def runs (run : List Char) : List Char → List (List Char)
  | [] => [run.reverse]
  | c :: rest =>
    if alphanumeric.contains c then runs (c :: run) rest else run.reverse :: runs [] rest

/-- The words of a text, in order. -/
def words (text : List Char) : List (List Char) :=
  (runs [] text).flatMap (humps .fresh [])

/-- The letters of a word after its first: small ones, with the small sigma in its final form at
the end. -/
def lowerTail : List Char → List Char
  | [] => []
  | [c] => if c = 'Σ' then ['ς'] else toLower c
  | c :: d :: rest => toLower c ++ lowerTail (d :: rest)

/-- A word with a capital first letter and small letters after it. -/
def capitalize : List Char → List Char
  | [] => []
  | c :: rest => toUpper c ++ lowerTail rest

/-- A text in upper camel case: its words, capitalized and joined. -/
def upperCamel (text : String) : String :=
  String.ofList ((words text.toList).flatMap capitalize)

end SchemaForge.Text
