import SchemaForge.Document.Json.Number
import SchemaForge.Document.Toml.Text

/-!
# Numbers of TOML

Digits may have single underscores between them. Whole numbers are decimal with an optional sign,
or hexadecimal, octal or binary without one, and fit into 64 bits with a sign. Reals have a
fraction or an exponent, or are an infinity or not a number; they are rounded to the nearest number
of 64 bits, and only an overflow to the positive infinity is refused.
-/

namespace SchemaForge.Document.Toml

open Json (digitsValue negativeLimit)

/-- The digits at the start of a text, without the underscores between them, and what follows. -/
def takeDigits? (isDigit : Char → Bool) : List Char → Option (List Char × List Char)
  | [] => none
  | [c] => if isDigit c then some ([c], []) else none
  | c :: '_' :: rest =>
    if isDigit c then (takeDigits? isDigit rest).map fun parts => (c :: parts.1, parts.2)
    else none
  | c :: d :: rest =>
    if isDigit c then
      if isDigit d then
        (takeDigits? isDigit (d :: rest)).map fun parts => (c :: parts.1, parts.2)
      else some ([c], d :: rest)
    else none

/-- The sign at the start of a text, true for minus, and what follows. -/
def takeSign (text : List Char) : Bool × List Char :=
  match text with
  | '+' :: rest => (false, rest)
  | '-' :: rest => (true, rest)
  | rest => (false, rest)

/-- The decimal digits at the start of a text; a zero stands alone. -/
def takeWhole? (text : List Char) : Option (List Char × List Char) :=
  match text with
  | '0' :: rest => some (['0'], rest)
  | rest => takeDigits? Char.isDigit rest

/-- A whole number, if it fits into 64 bits with a sign. -/
def integerNode? (value : Int) : Option Node :=
  if -(negativeLimit : Int) ≤ value ∧ value < negativeLimit then some (.integer value) else none

/-- The number whose digits to a base start a text. -/
def takeBased? (isDigit : Char → Bool) (base : Nat) (text : List Char) :
    Option (Node × List Char) := do
  let (digits, rest) ← takeDigits? isDigit text
  let value ← digits.foldlM (fun n c => (Json.hexValue? c).map (base * n + ·)) 0
  return (← integerNode? value, rest)

/-- The whole number at the start of a text, and what follows. -/
def takeInteger? (text : List Char) : Option (Node × List Char) :=
  match text with
  | '0' :: 'x' :: rest => takeBased? (fun c => (Json.hexValue? c).isSome) 16 rest
  | '0' :: 'o' :: rest => takeBased? (fun c => '0' ≤ c ∧ c ≤ '7') 8 rest
  | '0' :: 'b' :: rest => takeBased? (fun c => c == '0' || c == '1') 2 rest
  | _ => do
    let (minus, rest) := takeSign text
    let (digits, rest) ← takeWhole? rest
    let value : Int := digitsValue digits
    return (← integerNode? (if minus then -value else value), rest)

/-- The exponent at the start of a text, if there is one; none at all if it has no digits. -/
def takeExponent? (text : List Char) : Option (Option Int × List Char) :=
  match text with
  | c :: rest =>
    if c = 'e' ∨ c = 'E' then do
      let (minus, rest) := takeSign rest
      let (digits, rest) ← takeDigits? Char.isDigit rest
      let value : Int := digitsValue digits
      return (some (if minus then -value else value), rest)
    else some (none, text)
  | [] => some (none, [])

/-- The fraction at the start of a text, if there is one; none at all if it has no digits. -/
def takeFraction? (text : List Char) : Option (Option (List Char) × List Char) :=
  match text with
  | '.' :: rest => (takeDigits? Char.isDigit rest).map fun parts => (some parts.1, parts.2)
  | rest => some (none, rest)

/-- The real number nearest to the whole number with the given digits, times a power of ten. A power
that puts the first digit other than zero beyond every number of 64 bits is cut down first. -/
def nearest (digits : List Char) (exponent : Int) : Float :=
  let significant := digits.dropWhile (· == '0')
  if significant.isEmpty then 0
  else if significant.length + exponent > 400 then Float.ofScientific 1 false 400
  else if significant.length + exponent < -400 then 0
  else Float.ofScientific (digitsValue significant) (exponent < 0) exponent.natAbs

/-- The infinity or undefined number at the start of a text. -/
def takeSpecial? (text : List Char) : Option (Float × List Char) :=
  match text with
  | 'i' :: 'n' :: 'f' :: rest => some (1 / 0, rest)
  | 'n' :: 'a' :: 'n' :: rest => some (0 / 0, rest)
  | _ => none

/-- The real number at the start of a text, and what follows. -/
def takeReal? (text : List Char) : Option (Node × List Char) :=
  let (minus, rest) := takeSign text
  match takeSpecial? rest with
  | some (x, rest) => some (.real (if minus then -x else x), rest)
  | none => do
    let (whole, rest) ← takeWhole? rest
    let (fraction, rest) ← takeFraction? rest
    let (exponent, rest) ← takeExponent? rest
    if fraction.isNone ∧ exponent.isNone then none
    else
      let digits := whole ++ fraction.getD []
      let shift : Int := exponent.getD 0 - (fraction.getD []).length
      let x := nearest digits shift
      if x.isInf ∧ ¬ minus then none
      else return (.real (if minus then -x else x), rest)

end SchemaForge.Document.Toml
