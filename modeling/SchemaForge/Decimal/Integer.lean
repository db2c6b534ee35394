/-!
# Whole numbers in decimal

The decimal text of a whole number: its digits without leading zeros, after a minus sign if the
number is negative.
-/

namespace SchemaForge.Decimal

/-- The decimal digits of a natural number, without leading zeros. -/
def natDigits (n : Nat) : List Char := Nat.toDigits 10 n

/-- The decimal text of an integer. -/
def intDigits (n : Int) : List Char :=
  if n < 0 then '-' :: natDigits n.natAbs else natDigits n.natAbs

/-- The decimal text of a natural number. -/
def natText (n : Nat) : String := String.ofList (natDigits n)

/-- The decimal text of an integer. -/
def intText (n : Int) : String := String.ofList (intDigits n)

end SchemaForge.Decimal
