import Mathlib.Data.List.Lex
import Mathlib.Tactic.Common

/-!
# The order of texts by bytes

Names of files are listed in the order of their bytes (`ByteLt`). The first character in which two
names differ decides it when both are in ASCII, whatever follows (`byteLt_of_precedes`), so the
order of two names can be read off their beginnings.
-/

namespace SchemaForge.Text

/-- The bytes of a text in UTF-8. -/
def bytes (text : String) : List UInt8 := text.toUTF8.data.toList

/-- A text comes before another one when their bytes are compared from left to right. -/
def ByteLt (a b : String) : Prop := bytes a < bytes b

/-- The bytes of a text are those of its characters in a row. -/
theorem bytes_eq (text : String) : bytes text = text.toList.flatMap String.utf8EncodeChar := by
  have h : text.toByteArray = text.toList.utf8Encode := by
    rw [← String.toByteArray_ofList, String.ofList_toList]
  rw [bytes, String.toUTF8_eq_toByteArray, h, List.utf8Encode, List.data_toByteArray]

/-- What comes before what comes before another text comes before it, too. -/
theorem ByteLt.trans {a b c : String} (h : ByteLt a b) (h' : ByteLt b c) : ByteLt a c :=
  List.lt_trans h h'

/-- A character of ASCII is one byte. -/
theorem utf8EncodeChar_of_ascii {c : Char} (h : c.toNat < 128) :
    String.utf8EncodeChar c = [UInt8.ofNat c.toNat] := by
  have hle : c.val.toNat ≤ 127 := by
    have hval : c.toNat = c.val.toNat := rfl
    omega
  rw [String.utf8EncodeChar, if_pos hle]
  rfl

/-- The first difference of two texts is a character of the one before one of ASCII of the other. -/
def Precedes (a b : List Char) : Prop :=
  ∃ (front x y : List Char) (c d : Char), a = front ++ c :: x ∧ b = front ++ d :: y ∧
    c.toNat < d.toNat ∧ d.toNat < 128

/-- What comes behind the first difference does not matter. -/
theorem Precedes.append {a b : List Char} (h : Precedes a b) (x y : List Char) :
    Precedes (a ++ x) (b ++ y) := by
  obtain ⟨front, x', y', c, d, rfl, rfl, hlt, hascii⟩ := h
  exact ⟨front, x' ++ x, y' ++ y, c, d, by simp, by simp, hlt, hascii⟩

/-- What comes before the first difference is the same and does not matter. -/
theorem Precedes.prepend {a b : List Char} (h : Precedes a b) (front : List Char) :
    Precedes (front ++ a) (front ++ b) := by
  obtain ⟨front', x, y, c, d, rfl, rfl, hlt, hascii⟩ := h
  exact ⟨front ++ front', x, y, c, d, by simp, by simp, hlt, hascii⟩

/-- The first difference decides the order of the bytes. -/
theorem byteLt_of_precedes {a b : String} (h : Precedes a.toList b.toList) : ByteLt a b := by
  obtain ⟨front, x, y, c, d, ha, hb, hlt, hascii⟩ := h
  have hbyte : UInt8.ofNat c.toNat < UInt8.ofNat d.toNat := by
    rw [UInt8.lt_iff_toNat_lt, UInt8.toNat_ofNat', UInt8.toNat_ofNat']
    omega
  rw [ByteLt, bytes_eq, bytes_eq, ha, hb, List.flatMap_append, List.flatMap_append,
    List.flatMap_cons, List.flatMap_cons, utf8EncodeChar_of_ascii (by omega),
    utf8EncodeChar_of_ascii hascii]
  exact List.append_left_lt (List.cons_lt_cons_iff.mpr (.inl hbyte))

end SchemaForge.Text
