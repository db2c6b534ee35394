import Mathlib.Data.List.TakeWhile
import Mathlib.Data.Nat.Digits.Defs
import Mathlib.Tactic.Common
import SchemaForge.Decimal.Integer
import SchemaForge.Document.Json.Number

/-!
# Whole numbers of JSON read back

A whole number that fits into 64 bits is read from its decimal text as the whole number it is
(`takeNumeral?_intDigits`, `toNode_intNumeral`), if what follows does not go on the number.
-/

namespace SchemaForge.Document.Json

open Decimal (natDigits intDigits)

/-! ## Digits -/

/-- The decimal digits of a number are digits. -/
theorem isDigit_of_mem_natDigits {n : ℕ} {c : Char} (h : c ∈ natDigits n) : c.isDigit = true :=
  Nat.isDigit_of_mem_toDigits (by decide) (by decide) h

/-- The decimal digits of a number stand for it. -/
theorem digitsValue_natDigits (n : ℕ) : digitsValue (natDigits n) = n :=
  Nat.ofDigitChars_toDigits (by decide) (by decide)

/-- The decimal digits of a positive number do not start with a zero. -/
theorem head?_natDigits {n : ℕ} (h : 0 < n) : (natDigits n).head? ≠ some '0' := by
  induction n using Nat.strongRecOn with
  | ind n ih =>
    by_cases hsmall : n < 10
    · have hall : ∀ n < 10, 0 < n → (natDigits n).head? ≠ some '0' := by decide
      exact hall n hsmall h
    · -- The first digit is that of a tenth of the number.
      have hfirst := ih (n / 10) (by omega) (by omega)
      have hdigits : natDigits n = natDigits (n / 10) ++ [Nat.digitChar (n % 10)] :=
        Nat.toDigits_of_base_le (by decide) (by omega)
      cases htenth : natDigits (n / 10) with
      | nil => exact absurd htenth Nat.toDigits_ne_nil
      | cons c digits =>
        rw [htenth] at hfirst
        rw [hdigits, htenth]
        exact hfirst

/-! ## Numerals -/

/-- A text that does not go on a whole number. -/
def EndsNumber (rest : List Char) : Prop :=
  ∀ c ∈ rest.head?, c.isDigit = false ∧ c ≠ '.' ∧ c ≠ 'e' ∧ c ≠ 'E'

/-- The end of a text does not go on a number. -/
theorem endsNumber_nil : EndsNumber [] := by simp [EndsNumber]

/-- Digits are taken up to what is no digit. -/
theorem takeDigits?_natDigits (n : ℕ) {rest : List Char} (hrest : EndsNumber rest) :
    takeDigits? (natDigits n ++ rest) = some (natDigits n, rest) := by
  have hdigits : ∀ c ∈ natDigits n, c.isDigit = true := fun c => isDigit_of_mem_natDigits
  have htake : rest.takeWhile Char.isDigit = [] := by
    cases rest with
    | nil => rfl
    | cons c rest => simp [(hrest c rfl).1]
  have hdrop : rest.dropWhile Char.isDigit = rest := by
    cases rest with
    | nil => rfl
    | cons c rest => simp [(hrest c rfl).1]
  have hne : (natDigits n).isEmpty = false := List.isEmpty_eq_false_iff.mpr Nat.toDigits_ne_nil
  rw [takeDigits?, List.takeWhile_append_of_pos hdigits, List.dropWhile_append_of_pos hdigits,
    htake, hdrop, List.append_nil, hne]
  rfl

/-- The digits of a number are taken as those before a point. -/
theorem takeWhole?_natDigits (n : ℕ) {rest : List Char} (hrest : EndsNumber rest) :
    takeWhole? (natDigits n ++ rest) = some (natDigits n, rest) := by
  rw [takeWhole?, takeDigits?_natDigits n hrest]
  split
  next c more after hzero =>
    -- A zero with more digits after it is not how a number is written.
    obtain ⟨hdigits, rfl⟩ := Prod.mk.inj (Option.some.inj hzero)
    rcases Nat.eq_zero_or_pos n with rfl | hpos
    · cases hdigits
    · exact absurd (by rw [hdigits]; rfl) (head?_natDigits hpos)
  next => rfl

/-- The parts of a whole number as it is written. -/
def intNumeral (n : ℤ) : Numeral := ⟨decide (n < 0), natDigits n.natAbs, [], none⟩

/-- The decimal text of a whole number is taken as its numeral. -/
theorem takeNumeral?_intDigits (n : ℤ) {rest : List Char} (hrest : EndsNumber rest) :
    takeNumeral? (intDigits n ++ rest) = some (intNumeral n, rest) := by
  have hfraction : takeFraction? rest = some ([], rest) := by
    rw [takeFraction?]
    rintro more rfl
    exact (hrest '.' rfl).2.1 rfl
  have hexponent : takeExponent? rest = some (none, rest) := by
    cases rest with
    | nil => rfl
    | cons c more =>
      obtain ⟨-, -, hsmall, hcapital⟩ := hrest c rfl
      unfold takeExponent?
      exact if_neg (not_or.mpr ⟨hsmall, hcapital⟩)
  by_cases hneg : n < 0
  · rw [intDigits, if_pos hneg, List.cons_append]
    simp only [takeNumeral?, takeWhole?_natDigits _ hrest, hfraction, hexponent,
      Option.bind_eq_bind, Option.bind_some, Option.pure_def, intNumeral, decide_eq_true hneg]
  · -- The first character of the text is a digit, so it is no minus sign.
    have hminus : ∀ more, natDigits n.natAbs ++ rest ≠ '-' :: more := by
      intro more h
      cases hdigits : natDigits n.natAbs with
      | nil => exact Nat.toDigits_ne_nil hdigits
      | cons c digits =>
        have hdigit : c.isDigit = true := isDigit_of_mem_natDigits (hdigits ▸ List.mem_cons_self)
        rw [hdigits, List.cons_append] at h
        obtain ⟨rfl, -⟩ := List.cons.inj h
        cases hdigit
    rw [intDigits, if_neg hneg, takeNumeral?]
    · simp only [takeWhole?_natDigits _ hrest, hfraction, hexponent, Option.bind_eq_bind,
        Option.bind_some, Option.pure_def, intNumeral, decide_eq_false hneg]
    · exact hminus

/-- Whole numbers that fit into 64 bits, with or without a sign. -/
def FitsWord (n : ℤ) : Prop := -(negativeLimit : ℤ) ≤ n ∧ n < wholeLimit

/-- The numeral of a number that fits into 64 bits is whole. -/
theorem toNode_intNumeral {n : ℤ} (h : FitsWord n) : (intNumeral n).toNode = .integer n := by
  obtain ⟨hlow, hhigh⟩ := h
  have hvalue : digitsValue (intNumeral n).whole = n.natAbs := digitsValue_natDigits _
  rw [Numeral.toNode]
  simp only [hvalue]
  rw [if_pos ⟨rfl, rfl⟩]
  by_cases hneg : n < 0
  · have hsign : (intNumeral n).negative = true := decide_eq_true hneg
    rw [if_neg (by simp [hsign]), if_pos ⟨hsign, by omega, by omega⟩]
    congr 1
    omega
  · have hsign : (intNumeral n).negative = false := decide_eq_false hneg
    rw [if_pos ⟨by simp [hsign], by omega⟩]
    congr 1
    omega

end SchemaForge.Document.Json
