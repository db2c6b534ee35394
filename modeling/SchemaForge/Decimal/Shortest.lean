/-!
# Shortest decimals

The decimal number with the fewest digits among those that round to a given binary fraction
`m · 2 ^ q`, and the nearest of these to it. The reals that round to the fraction form an interval
around it, which contains its ends exactly when `m` is even. Grids `10 ^ k` are tried from coarse to
fine; the first with a point in the interval has the fewest digits, and of its two points next to
the fraction the nearer one is taken.
-/

namespace SchemaForge.Decimal

/-- A positive decimal number `digits · 10 ^ exponent`. -/
structure Scaled where
  /-- The digits, read as a whole number. -/
  digits : Nat
  /-- The power of ten of the last digit. -/
  exponent : Int
deriving DecidableEq, Repr

/-- A positive binary fraction `significand · 2 ^ exponent` with the gap to its neighbours. -/
structure Binary where
  /-- The whole number that is scaled. -/
  significand : Nat
  /-- The power of two that scales it. -/
  exponent : Int
  /-- Whether the gap below is half of the gap above, as at a power of two. -/
  narrowBelow : Bool
deriving DecidableEq, Repr

/-- The number of significands that share an exponent: the 52nd power of two. -/
def significands : Nat := 0x10000000000000

/-- The fraction that the bits of a positive finite number of 64 bits stand for. -/
def Binary.ofBits (bits : Nat) : Binary :=
  let fraction := bits % significands
  let exponent := bits / significands % 2048
  if exponent = 0 then ⟨fraction, -1074, false⟩
  else ⟨significands + fraction, (exponent : Int) - 1075, fraction == 0 && exponent > 1⟩

/-- The points of the grid `10 ^ k` next to the fraction that round to it: the nearer one if there
are two, and on a tie the greater if `tiesUp` and the even one otherwise. -/
def onGrid? (tiesUp : Bool) (b : Binary) (k : Int) : Option Scaled :=
  let scale := Nat.pow 2 (b.exponent - 2).toNat * Nat.pow 10 (-k).toNat
  let step := Nat.pow 2 (2 - b.exponent).toNat * Nat.pow 10 k.toNat
  let value := 4 * b.significand * scale
  let low := (4 * b.significand - (if b.narrowBelow then 1 else 2)) * scale
  let high := (4 * b.significand + 2) * scale
  let closed := b.significand % 2 == 0
  let d := value / step
  let downOk := d > 0 && (low < d * step || closed && low == d * step)
  let upOk := (d + 1) * step < high || closed && (d + 1) * step == high
  let below := value - d * step
  let above := (d + 1) * step - value
  let takeUp := upOk && (!downOk || above < below ||
    above == below && (tiesUp || d % 2 == 1))
  if takeUp then some ⟨d + 1, k⟩ else if downOk then some ⟨d, k⟩ else none

/-- The point of the first grid that has one, from the grid `10 ^ (n - 345)` downwards. -/
def shortestFrom (tiesUp : Bool) (b : Binary) : Nat → Scaled
  | 0 => ⟨b.significand, 0⟩
  | n + 1 =>
    match onGrid? tiesUp b ((n : Int) - 344) with
    | some d => d
    | none => shortestFrom tiesUp b n

/-- The shortest decimal that rounds to a binary fraction of 64 bits. -/
def shortest (tiesUp : Bool) (b : Binary) : Scaled := shortestFrom tiesUp b 655

end SchemaForge.Decimal
