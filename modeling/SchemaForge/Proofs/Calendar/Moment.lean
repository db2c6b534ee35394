import Mathlib.Tactic.Common
import SchemaForge.Calendar.Moment

/-!
# The calendar goes on

The moment one second later exists except at the very end of the calendar. A stamp is written from
its parts, which say the same as its pattern.
-/

namespace SchemaForge.Moment

/-- Every month has days. -/
theorem daysInMonth_pos (year : Int) (month : ℕ) : 1 ≤ daysInMonth year month := by
  unfold daysInMonth
  split
  · split <;> decide
  · split <;> decide

/-- Numbers that name a moment give one. -/
theorem isSome_of? {year : Int} {month day hour minute second : ℕ}
    (h : IsMoment year month day hour minute second) :
    (of? year month day hour minute second).isSome := by
  rw [of?, dif_pos h]
  rfl

/-- Before its last year the calendar has a next moment. -/
theorem isSome_next? {m : Moment} (h : m.year < 262142) : m.next?.isSome := by
  obtain ⟨⟨hlow, hhigh⟩, ⟨hmonth, hmonth'⟩, ⟨hday, hday'⟩, hhour, hminute, hsecond⟩ := m.isMoment
  have hfirst := daysInMonth_pos (m.year + 1) 1
  have hnextMonth := daysInMonth_pos m.year (m.month + 1)
  unfold next?
  split
  · exact isSome_of? ⟨⟨hlow, hhigh⟩, ⟨hmonth, hmonth'⟩, ⟨hday, hday'⟩, hhour, hminute, by omega⟩
  split
  · exact isSome_of? ⟨⟨hlow, hhigh⟩, ⟨hmonth, hmonth'⟩, ⟨hday, hday'⟩, hhour, by omega, by omega⟩
  split
  · exact isSome_of? ⟨⟨hlow, hhigh⟩, ⟨hmonth, hmonth'⟩, ⟨hday, hday'⟩, by omega, by omega, by omega⟩
  split
  · exact isSome_of? ⟨⟨hlow, hhigh⟩, ⟨hmonth, hmonth'⟩, ⟨by omega, by omega⟩, by omega, by omega,
      by omega⟩
  split
  · exact isSome_of? ⟨⟨hlow, hhigh⟩, ⟨by omega, by omega⟩, ⟨by omega, hnextMonth⟩, by omega,
      by omega, by omega⟩
  · exact isSome_of? ⟨⟨by omega, by omega⟩, ⟨by omega, by omega⟩, ⟨by omega, hfirst⟩, by omega,
      by omega, by omega⟩

/-- A stamp has the year, month, day and time of day with underscores between. -/
theorem stamp_eq (m : Moment) : m.stamp =
    yearText m.year ++ '_' :: digits 2 m.month ++ '_' :: digits 2 m.day ++
      '_' :: digits 2 m.hour ++ digits 2 m.minute ++ digits 2 m.second := by
  simp [stamp, stampParts, StampPart.text]

example : stampPattern = "%Y_%m_%d_%H%M%S" := rfl

end SchemaForge.Moment
