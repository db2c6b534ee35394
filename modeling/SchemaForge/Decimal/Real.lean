import SchemaForge.Decimal.Integer
import SchemaForge.Decimal.Shortest

/-!
# Real numbers in decimal

Numbers of 64 bits are written with the fewest digits that read back. A style says between which
powers of ten a number is written positionally, always with a point and a digit after it; outside
it is written with an exponent. The program has three styles, one per place where reals appear.
-/

namespace SchemaForge.Decimal

/-- How real numbers are laid out. -/
structure RealStyle where
  /-- Positional numbers have their point right of this place. -/
  lowPoint : Int
  /-- Positional numbers have their point at this place at most. -/
  highPoint : Int
  /-- Whether a tie between two shortest decimals goes to the greater one. -/
  tiesUp : Bool
  /-- Whether an exponent that is not negative has a plus sign. -/
  plusSign : Bool

/-- Reals in generated code: positional from a ten-thousandth to below ten to the sixteenth. -/
def RealStyle.code : RealStyle := ⟨-4, 16, true, false⟩

/-- Reals in JSON documents: positional from a hundred-thousandth to below ten to the sixteenth. -/
def RealStyle.json : RealStyle := ⟨-5, 16, false, true⟩

/-- Reals in messages: always positional. -/
def RealStyle.plain : RealStyle := ⟨-400, 400, true, false⟩

/-- A decimal in positional form, with its point after the first `point` digits. -/
def positional (digits : List Char) (point : Int) : List Char :=
  if point ≤ 0 then
    '0' :: '.' :: List.replicate (-point).toNat '0' ++ digits
  else if digits.length ≤ point then
    digits ++ List.replicate (point.toNat - digits.length) '0' ++ ['.', '0']
  else
    digits.take point.toNat ++ '.' :: digits.drop point.toNat

/-- A decimal with one digit before the point and an exponent. -/
def scientific (plusSign : Bool) (digits : List Char) (point : Int) : List Char :=
  let mantissa :=
    match digits with
    | d :: e :: rest => d :: '.' :: e :: rest
    | short => short
  let sign := if plusSign ∧ 1 ≤ point then ['+'] else []
  mantissa ++ 'e' :: sign ++ intDigits (point - 1)

/-- The text of the positive finite number with the given bits. -/
def positiveText (style : RealStyle) (bits : Nat) : List Char :=
  let d := shortest style.tiesUp (Binary.ofBits bits)
  let digits := natDigits d.digits
  let point := digits.length + d.exponent
  if style.lowPoint < point ∧ point ≤ style.highPoint then positional digits point
  else scientific style.plusSign digits point

/-- The bit that is set for negative numbers: the 63rd power of two. -/
def signBit : Nat := 0x8000000000000000

/-- The bits of the positive infinity. -/
def infinity : Nat := 2047 * significands

/-- The text of the number with the given bits. -/
def bitsText (style : RealStyle) (bits : Nat) : List Char :=
  let magnitude := bits % signBit
  let sign := if bits < signBit then [] else ['-']
  if magnitude > infinity then ['N', 'a', 'N']
  else if magnitude = infinity then sign ++ ['i', 'n', 'f']
  else if magnitude = 0 then sign ++ ['0', '.', '0']
  else sign ++ positiveText style magnitude

/-- The text of a real number. -/
def realText (style : RealStyle) (x : Float) : String :=
  String.ofList (bitsText style x.toBits.toNat)

end SchemaForge.Decimal
