import SchemaForge.Calendar.Moment
import SchemaForge.Document.Json.Number
import SchemaForge.Document.Toml.Text

/-!
# Dates and times of TOML

A date, a time of day, or both with an optional offset. Such a value is met as a table with one
member that holds it in its plain written form: a capital T between date and time, the fraction of
a second without trailing zeros and cut to nanoseconds.
-/

namespace SchemaForge.Document.Toml

open Json (digitsValue)

/-- The number in the first `count` characters of a text if all of them are digits, and what
follows. -/
def takeFixed? (count : Nat) (text : List Char) : Option (Nat × List Char) :=
  let digits := text.take count
  if digits.length = count ∧ digits.all Char.isDigit then
    some (digitsValue digits, text.drop count)
  else none

/-- What follows an expected character. -/
def takeChar? (c : Char) : List Char → Option (List Char)
  | d :: rest => if d = c then some rest else none
  | [] => none

/-- The date at the start of a text in its written form, and what follows. -/
def takeDate? (text : List Char) : Option (List Char × List Char) := do
  let (year, rest) ← takeFixed? 4 text
  let rest ← takeChar? '-' rest
  let (month, rest) ← takeFixed? 2 rest
  let rest ← takeChar? '-' rest
  let (day, rest) ← takeFixed? 2 rest
  if 1 ≤ month ∧ month ≤ 12 ∧ 1 ≤ day ∧ day ≤ daysInMonth year month then
    return (text.take 10, rest)
  else none

/-- The fraction of a second in its written form: at most nine digits, without zeros at the end. -/
def fractionText (digits : List Char) : List Char :=
  let significant := ((digits.take 9).reverse.dropWhile (· == '0')).reverse
  if significant.isEmpty then [] else '.' :: significant

/-- The time of day at the start of a text in its written form, and what follows. -/
def takeTime? (text : List Char) : Option (List Char × List Char) := do
  let (hour, rest) ← takeFixed? 2 text
  let rest ← takeChar? ':' rest
  let (minute, rest) ← takeFixed? 2 rest
  let rest ← takeChar? ':' rest
  let (second, rest) ← takeFixed? 2 rest
  if 24 ≤ hour ∨ 60 ≤ minute ∨ 60 < second then none
  else
    let clock := text.take 8
    match rest with
    | '.' :: after =>
      let digits := after.takeWhile Char.isDigit
      if digits.isEmpty then return (clock, rest)
      else return (clock ++ fractionText digits, after.dropWhile Char.isDigit)
    | _ => return (clock, rest)

/-- The offset at the start of a text in its written form, empty if there is none, and what
follows. -/
def takeOffset? (text : List Char) : Option (List Char × List Char) :=
  match text with
  | 'Z' :: rest | 'z' :: rest => some (['Z'], rest)
  | sign :: rest =>
    if sign = '+' ∨ sign = '-' then do
      let (hour, after) ← takeFixed? 2 rest
      let after ← takeChar? ':' after
      let (minute, after) ← takeFixed? 2 after
      if 24 ≤ hour ∨ 60 ≤ minute then none
      else
        let shown := if hour = 0 ∧ minute = 0 then '+' else sign
        return (shown :: rest.take 5, after)
    else some ([], text)
  | [] => some ([], [])

/-- The date, time or both at the start of a text in its written form, and what follows. -/
def takeMoment? (text : List Char) : Option (List Char × List Char) :=
  match takeDate? text with
  | some (date, rest) =>
    match rest with
    | c :: after =>
      if c = 'T' ∨ c = 't' ∨ c = ' ' then
        match takeTime? after with
        | some (time, rest) =>
          (takeOffset? rest).map fun parts => (date ++ 'T' :: time ++ parts.1, parts.2)
        | none => some (date, rest)
      else some (date, rest)
    | [] => some (date, [])
  | none => takeTime? text

/-- The member under which the written form of a date or time is met. -/
def momentKey : String := "$__toml_private_datetime"

/-- The value that a date or time in its written form is met as. -/
def momentNode (written : List Char) : Node :=
  .table (.ofList [(momentKey, .text (String.ofList written))])

end SchemaForge.Document.Toml
