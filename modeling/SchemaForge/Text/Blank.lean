import SchemaForge.Text.CharClass

/-!
# Blank text

White space in the sense of the Unicode property `White_Space`, which has 25 characters. A name is
blank when it has no other characters, the empty name included.
-/

namespace SchemaForge.Text

/-- The characters with the Unicode property `White_Space`. -/
def whiteSpace : CharClass := ⟨[
  0x9, 0xE, 0x20, 0x21, 0x85, 0x86, 0xA0, 0xA1, 0x1680, 0x1681, 0x2000, 0x200B, 0x2028, 0x202A,
  0x202F, 0x2030, 0x205F, 0x2060, 0x3000, 0x3001]⟩

/-- A text without the white space at its start and its end. -/
def trim (text : List Char) : List Char :=
  ((text.dropWhile whiteSpace.contains).reverse.dropWhile whiteSpace.contains).reverse

/-- Whether a text is empty or white space throughout. -/
def IsBlank (text : String) : Prop :=
  ∀ c ∈ text.toList, whiteSpace.contains c = true

instance (text : String) : Decidable (IsBlank text) :=
  List.decidableBAll (fun c => whiteSpace.contains c = true) text.toList

end SchemaForge.Text
