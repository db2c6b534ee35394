import SchemaForge.Document.Node

/-!
# Numbers of JSON

A number without fraction and exponent that fits into 64 bits is whole; every other number is real.
A real is computed from as many digits as fit into 64 bits, read as a whole number and then scaled
by a power of ten in double precision, which is not always the real nearest to the decimal. A real
that is too great has no meaning.
-/

namespace SchemaForge.Document.Json

/-- The parts of a number as it is written. -/
structure Numeral where
  /-- Whether there is a minus sign. -/
  negative : Bool
  /-- The digits before the point. -/
  whole : List Char
  /-- The digits after the point, if there is one. -/
  fraction : List Char
  /-- The sign and digits of the exponent, if there is one; the sign is true for minus. -/
  exponent : Option (Bool × List Char)
deriving DecidableEq

/-- The digits at the start of a text, at least one, and the rest of the text. -/
def takeDigits? (text : List Char) : Option (List Char × List Char) :=
  let digits := text.takeWhile Char.isDigit
  if digits.isEmpty then none else some (digits, text.dropWhile Char.isDigit)

/-- The digits before the point: a zero stands alone. -/
def takeWhole? (text : List Char) : Option (List Char × List Char) :=
  match takeDigits? text with
  | some ('0' :: _ :: _, _) => none
  | other => other

/-- The fraction at the start of a text, empty if there is none. -/
def takeFraction? (text : List Char) : Option (List Char × List Char) :=
  match text with
  | '.' :: rest => takeDigits? rest
  | _ => some ([], text)

/-- The exponent at the start of a text, if there is one. -/
def takeExponent? (text : List Char) : Option (Option (Bool × List Char) × List Char) :=
  match text with
  | c :: rest =>
    if c = 'e' ∨ c = 'E' then
      let (minus, rest) :=
        match rest with
        | '+' :: r => (false, r)
        | '-' :: r => (true, r)
        | r => (false, r)
      (takeDigits? rest).map fun parts => (some (minus, parts.1), parts.2)
    else
      some (none, text)
  | [] => some (none, [])

/-- The number at the start of a text and the rest of the text. -/
def takeNumeral? (text : List Char) : Option (Numeral × List Char) := do
  let (negative, text) :=
    match text with
    | '-' :: rest => (true, rest)
    | _ => (false, text)
  let (whole, text) ← takeWhole? text
  let (fraction, text) ← takeFraction? text
  let (exponent, text) ← takeExponent? text
  return (⟨negative, whole, fraction, exponent⟩, text)

/-- The value of a digit. -/
def digitValue (c : Char) : Nat := c.toNat - '0'.toNat

/-- The whole number that a list of digits stands for. -/
def digitsValue (digits : List Char) : Nat :=
  digits.foldl (fun n c => 10 * n + digitValue c) 0

/-- How many whole numbers fit into 64 bits: the 64th power of two. -/
def wholeLimit : Nat := 0x10000000000000000

/-- The greatest magnitude of a negative number that fits into 64 bits: the 63rd power of two. -/
def negativeLimit : Nat := 0x8000000000000000

/-- Appends digits to a whole number as long as it fits into 64 bits; the second part is the number
of digits from the first that does not fit. -/
def absorb (n : Nat) : List Char → Nat × Nat
  | [] => (n, 0)
  | c :: rest =>
    if 10 * n + digitValue c < wholeLimit then absorb (10 * n + digitValue c) rest
    else (n, rest.length + 1)

/-- Scales a real by a power of ten, which is at most the 308th in one step; none if the result is
too great. The first argument bounds the number of steps. -/
def scale : Nat → Float → Int → Option Float
  | 0, x, _ => some x
  | steps + 1, x, exponent =>
    if exponent.natAbs ≤ 308 then
      if 0 ≤ exponent then
        let y := x * Float.ofScientific 1 false exponent.natAbs
        if y.isInf then none else some y
      else
        some (x / Float.ofScientific 1 false exponent.natAbs)
    else if x == 0 then some x
    else if 0 ≤ exponent then none
    else scale steps (x / Float.ofScientific 1 false 308) (exponent + 308)

/-- The greatest exponent that is computed with. -/
def maxExponent : Nat := 0x7FFFFFFF

namespace Numeral

/-- The magnitude of a number as a real; none if it is too great. -/
def magnitude? (n : Numeral) : Option Float :=
  let (significand, dropped) := absorb 0 n.whole
  let (significand, left) := absorb significand n.fraction
  let shift : Int := dropped - (n.fraction.length - left : Nat)
  let x := significand.toUInt64.toFloat
  match n.exponent with
  | none => scale 4 x shift
  | some (minus, digits) =>
    let exponent := digitsValue digits
    if maxExponent < exponent then
      if minus ∨ significand = 0 then some 0 else none
    else
      scale 4 x (if minus then shift - exponent else shift + exponent)

/-- The number as a real. -/
def realNode (n : Numeral) : Node :=
  match n.magnitude? with
  | some x => .real (if n.negative then -x else x)
  | none => .unreadable

/-- The value of a number: whole if it has neither fraction nor exponent and fits into 64 bits, with
a sign if it is negative. Negative zero is real. -/
def toNode (n : Numeral) : Node :=
  let value := digitsValue n.whole
  if n.fraction = [] ∧ n.exponent = none then
    if ¬ n.negative ∧ value < wholeLimit then .integer value
    else if n.negative ∧ 0 < value ∧ value ≤ negativeLimit then .integer (-value)
    else n.realNode
  else n.realNode

end Numeral

end SchemaForge.Document.Json
