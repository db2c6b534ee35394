import Mathlib.Algebra.Group.Nat.Defs
import SchemaForge.Proofs.Migration.Name
import SchemaForge.Proofs.Text.ByteOrder
import SchemaForge.Run.Execute

/-!
# The order of stamps

Moments are ordered by their numbers from the year down (`IsBefore`), and the next moment is a later
one whichever of the six numbers it carries into (`isBefore_of_next?`). A number of fixed width sorts
like its digits, so the stamps of plain years sort like their moments (`precedes_stamp`), and so do
the names of migrations, whatever follows their stamps (`precedes_fileName`).
-/

namespace SchemaForge.Moment

open Text (Precedes)

variable {m m' m'' : Moment}

/-! ## Moments in order -/

/-- A moment is earlier than another one: the first number in which they differ is smaller. -/
def IsBefore (m m' : Moment) : Prop :=
  m.year < m'.year ∨ m.year = m'.year ∧
    (m.month < m'.month ∨ m.month = m'.month ∧
      (m.day < m'.day ∨ m.day = m'.day ∧
        (m.hour < m'.hour ∨ m.hour = m'.hour ∧
          (m.minute < m'.minute ∨ m.minute = m'.minute ∧ m.second < m'.second))))

/-- What is earlier than an earlier moment is earlier. -/
theorem IsBefore.trans (h : IsBefore m m') (h' : IsBefore m' m'') : IsBefore m m'' := by
  unfold IsBefore at *
  omega

/-- A moment that the calendar has for some numbers has these numbers. -/
theorem of?_eq_some {year : ℤ} {month day hour minute second : ℕ}
    (h : of? year month day hour minute second = some m) :
    m.year = year ∧ m.month = month ∧ m.day = day ∧ m.hour = hour ∧ m.minute = minute ∧
      m.second = second := by
  unfold of? at h
  split at h
  · cases h
    exact ⟨rfl, rfl, rfl, rfl, rfl, rfl⟩
  · cases h

/-- The next moment is a later one. -/
theorem isBefore_of_next? (h : m.next? = some m') : IsBefore m m' := by
  unfold next? at h
  unfold IsBefore
  -- One case for each number that can go up; all before it stay as they are.
  split at h
  · obtain ⟨hyear, hmonth, hday, hhour, hminute, hsecond⟩ := of?_eq_some h
    omega
  split at h
  · obtain ⟨hyear, hmonth, hday, hhour, hminute, -⟩ := of?_eq_some h
    omega
  split at h
  · obtain ⟨hyear, hmonth, hday, hhour, -, -⟩ := of?_eq_some h
    omega
  split at h
  · obtain ⟨hyear, hmonth, hday, -, -, -⟩ := of?_eq_some h
    omega
  split at h
  · obtain ⟨hyear, hmonth, -, -, -, -⟩ := of?_eq_some h
    omega
  · obtain ⟨hyear, -, -, -, -, -⟩ := of?_eq_some h
    omega

/-- A moment that some more seconds lead to is a later one. -/
theorem isBefore_of_after? {start : Moment} {k l : ℕ} (hlt : k < l) (hk : start.after? k = some m)
    (hl : start.after? l = some m') : IsBefore m m' := by
  induction l generalizing m' with
  | zero => cases hlt
  | succ l ih =>
    obtain ⟨between, hbetween, hnext⟩ := Option.bind_eq_some_iff.mp hl
    have hlast := isBefore_of_next? hnext
    rcases Nat.lt_succ_iff_lt_or_eq.mp hlt with hlt | rfl
    · exact (ih hlt hbetween).trans hlast
    · rw [hk] at hbetween
      cases hbetween
      exact hlast

/-! ## Stamps in order -/

/-- The characters of digits are in the order of the digits, in ASCII. -/
theorem toNat_digitChar {n : ℕ} (h : n < 10) : (Nat.digitChar n).toNat = 48 + n := by
  have hall : ∀ n < 10, (Nat.digitChar n).toNat = 48 + n := by decide
  exact hall n h

/-- The digits of a larger number come later. -/
theorem precedes_digits {width a b : ℕ} (hlt : a < b) (hb : b < 10 ^ width) :
    Precedes (digits width a) (digits width b) := by
  induction width generalizing a b with
  | zero => omega
  | succ width ih =>
    rw [digits, digits]
    rcases Nat.lt_or_ge (a / 10) (b / 10) with hdiv | hdiv
    · have hb' : b / 10 < 10 ^ width := by
        rw [Nat.pow_succ] at hb
        omega
      exact (ih hdiv hb').append _ _
    · -- The numbers differ in their last digit only.
      have hsame : a / 10 = b / 10 := by omega
      have hfirst := toNat_digitChar (Nat.mod_lt a (y := 10) (by decide))
      have hsecond := toNat_digitChar (Nat.mod_lt b (y := 10) (by decide))
      rw [hsame]
      exact ⟨digits width (b / 10), [], [], _, _, rfl, rfl, by omega, by omega⟩

/-- A month has 31 days at most. -/
theorem daysInMonth_le (year : ℤ) (month : ℕ) : daysInMonth year month ≤ 31 := by
  unfold daysInMonth
  split
  · split <;> decide
  · split <;> decide

/-- The stamp of an earlier moment comes first, for plain years. -/
theorem precedes_stamp (hyear : m.HasPlainYear) (hyear' : m'.HasPlainYear) (h : IsBefore m m') :
    Precedes m.stamp m'.stamp := by
  obtain ⟨-, ⟨-, hmonth⟩, ⟨-, hday⟩, hhour, hminute, hsecond⟩ := m'.isMoment
  have hdays := daysInMonth_le m'.year m'.month
  have hnumber : ∀ {a b : ℕ}, a < b → b < 100 → Precedes (digits 2 a) (digits 2 b) :=
    fun hlt hb => precedes_digits hlt hb
  have hpart : ∀ {a b : ℕ}, a < b → b < 100 → Precedes ('_' :: digits 2 a) ('_' :: digits 2 b) :=
    fun hlt hb => (hnumber hlt hb).prepend ['_']
  obtain ⟨hlow, hhigh⟩ := hyear
  obtain ⟨hlow', hhigh'⟩ := hyear'
  rw [stamp_eq, stamp_eq, yearText, yearText, if_pos ⟨hlow, hhigh⟩, if_pos ⟨hlow', hhigh'⟩]
  -- The stamps are the same up to the first number in which the moments differ.
  rcases h with hlt | ⟨hsame, h⟩
  · have hyears : Precedes (digits 4 m.year.toNat) (digits 4 m'.year.toNat) :=
      precedes_digits (by omega) (by omega)
    exact ((((hyears.append _ _).append _ _).append _ _).append _ _).append _ _
  rw [hsame]
  rcases h with hlt | ⟨hsame, h⟩
  · exact (((((hpart hlt (by omega)).prepend _).append _ _).append _ _).append _ _).append _ _
  rw [hsame]
  rcases h with hlt | ⟨hsame, h⟩
  · exact ((((hpart hlt (by omega)).prepend _).append _ _).append _ _).append _ _
  rw [hsame]
  rcases h with hlt | ⟨hsame, h⟩
  · exact (((hpart hlt (by omega)).prepend _).append _ _).append _ _
  rw [hsame]
  rcases h with hlt | ⟨hsame, hlt⟩
  · exact ((hnumber hlt (by omega)).prepend _).append _ _
  · rw [hsame]
    exact (hnumber hlt (by omega)).prepend _

end SchemaForge.Moment

namespace SchemaForge.Migration

/-- The migration with the earlier stamp comes first, whatever their actions and tables. -/
theorem precedes_fileName {m m' : Moment} (hyear : m.HasPlainYear) (hyear' : m'.HasPlainYear)
    (h : m.IsBefore m') (a a' : Action) (table table' : String) :
    Text.Precedes (fileName m a table).toList (fileName m' a' table').toList := by
  simp only [fileName, String.toList_append, String.toList_ofList]
  exact ((Moment.precedes_stamp hyear hyear' h).append _ _).append _ _

end SchemaForge.Migration
