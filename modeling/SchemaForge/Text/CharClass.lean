/-!
# Classes of characters

A class is a set of code points, stored as the increasing list of the places where membership
changes. The list starts outside the class, so a code point is a member exactly when an odd number
of changes lie at or below it.
-/

namespace SchemaForge.Text

/-- A set of characters, given by the increasing code points at which membership changes. -/
structure CharClass where
  /-- The changes, the first of which enters the set. -/
  changes : List Nat

/-- Membership of a code point, given whether the part of the set before the listed changes
contains it. -/
def CharClass.insideAfter (inside : Bool) (n : Nat) : List Nat → Bool
  | [] => inside
  | b :: bs => if n < b then inside else insideAfter (!inside) n bs

/-- Whether a character belongs to the class. -/
def CharClass.contains (k : CharClass) (c : Char) : Bool :=
  CharClass.insideAfter false c.toNat k.changes

end SchemaForge.Text
