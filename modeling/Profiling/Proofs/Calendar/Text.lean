import Profiling.Calendar.Instant
import Profiling.Proofs.Decimal.Digits

/-!
# Texts of dates and instants

A date is known from its text. Of an instant the text shows the date and the time to the second,
where a leap second counts on.
-/

namespace Profiling

namespace Date

theorem mem_yearText {year : Int} {c : Char} (h : c ∈ yearText year) :
    c = '-' ∨ c = '+' ∨ c.isDigit = true := by
  unfold yearText at h
  split at h
  · exact Or.inr (Or.inr (isDigit_of_mem_padded h))
  · rcases List.mem_cons.mp h with rfl | h
    · split <;> simp
    · exact Or.inr (Or.inr (isDigit_of_mem_padded h))

theorem mem_text {d : Date} {c : Char} (h : c ∈ d.text) : c = '-' ∨ c = '+' ∨ c.isDigit = true := by
  simp only [text, List.append_assoc, List.cons_append, List.mem_append, List.mem_cons] at h
  rcases h with h | rfl | h | rfl | h
  · exact mem_yearText h
  · exact Or.inl rfl
  · exact Or.inr (Or.inr (isDigit_of_mem_padded h))
  · exact Or.inl rfl
  · exact Or.inr (Or.inr (isDigit_of_mem_padded h))

theorem quote_not_mem_text (d : Date) : '\'' ∉ d.text := by
  intro h
  rcases mem_text h with h | h | h <;> exact absurd h (by decide)

/-- The sign of a year outside of four digits. -/
def yearSign (year : Int) : Char := if year < 0 then '-' else '+'

theorem yearText_inside {year : Int} (h : 0 ≤ year ∧ year ≤ 9999) :
    yearText year = padded 4 year.toNat := if_pos h

theorem yearText_outside {year : Int} (h : ¬(0 ≤ year ∧ year ≤ 9999)) :
    yearText year = yearSign year :: padded 4 year.natAbs := if_neg h

/-- No year of four digits starts with a sign. -/
theorem yearSign_cons_ne_padded (year : Int) (s : List Char) (width n : Nat) :
    yearSign year :: s ≠ padded width n := by
  intro h
  have sign : yearSign year ∈ padded width n := h ▸ List.mem_cons_self
  have digit := isDigit_of_mem_padded sign
  unfold yearSign at digit
  split at digit <;> exact absurd digit (by decide)

theorem neg_iff_of_yearSign_eq {m n : Int} (h : yearSign m = yearSign n) : m < 0 ↔ n < 0 := by
  unfold yearSign at h
  split at h <;> split at h
  · omega
  · exact absurd h (by decide)
  · exact absurd h (by decide)
  · omega

theorem yearText_injective {m n : Int} (h : yearText m = yearText n) : m = n := by
  by_cases hm : 0 ≤ m ∧ m ≤ 9999 <;> by_cases hn : 0 ≤ n ∧ n ≤ 9999
  · rw [yearText_inside hm, yearText_inside hn] at h
    have same := padded_injective h
    omega
  · rw [yearText_inside hm, yearText_outside hn] at h
    exact absurd h.symm (yearSign_cons_ne_padded _ _ _ _)
  · rw [yearText_outside hm, yearText_inside hn] at h
    exact absurd h (yearSign_cons_ne_padded _ _ _ _)
  · rw [yearText_outside hm, yearText_outside hn] at h
    obtain ⟨sign, digits⟩ := List.cons.inj h
    have same := padded_injective digits
    have negative := neg_iff_of_yearSign_eq sign
    omega

theorem day_le_thirtyOne (d : Date) : d.day ≤ 31 := by
  have short := d.day_le
  unfold monthLength at short
  split at short
  · split at short <;> omega
  all_goals omega

theorem length_month (d : Date) : (padded 2 d.month).length = 2 :=
  length_padded_two (by have := d.month_le; omega)

theorem length_day (d : Date) : (padded 2 d.day).length = 2 :=
  length_padded_two (by have := d.day_le_thirtyOne; omega)

theorem text_injective {d e : Date} (h : d.text = e.text) : d = e := by
  unfold text at h
  obtain ⟨front, days⟩ := List.append_inj' h (by simp [length_day])
  obtain ⟨years, months⟩ := List.append_inj' front (by simp [length_month])
  have year := yearText_injective years
  have month := padded_injective (List.cons.inj months).2
  have day := padded_injective (List.cons.inj days).2
  cases d
  cases e
  simp_all

end Date

namespace Instant

theorem mem_text {t : Instant} {c : Char} (h : c ∈ t.text) :
    c = '-' ∨ c = '+' ∨ c.isDigit = true ∨ c = ' ' ∨ c = ':' := by
  simp only [text, timeText, List.append_assoc, List.cons_append, List.mem_append, List.mem_cons] at h
  rcases h with h | rfl | h | rfl | h | rfl | h
  · rcases Date.mem_text h with h | h | h
    · exact Or.inl h
    · exact Or.inr (Or.inl h)
    · exact Or.inr (Or.inr (Or.inl h))
  · simp
  · simp [isDigit_of_mem_padded h]
  · simp
  · simp [isDigit_of_mem_padded h]
  · simp
  · simp [isDigit_of_mem_padded h]

theorem quote_not_mem_text (t : Instant) : '\'' ∉ t.text := by
  intro h
  rcases mem_text h with h | h | h | h | h <;> exact absurd h (by decide)

def clock (t : Instant) : Nat × Nat × Nat :=
  (t.second / 3600, t.second / 60 % 60, t.second % 60 + (if t.isLeapSecond then 1 else 0))

theorem timeText_eq (t : Instant) :
    t.timeText = padded 2 t.clock.1 ++ ':' :: padded 2 t.clock.2.1 ++ ':' :: padded 2 t.clock.2.2 := rfl

theorem length_minutes (t : Instant) : (padded 2 t.clock.2.1).length = 2 :=
  length_padded_two (by simp only [clock]; omega)

theorem length_seconds (t : Instant) : (padded 2 t.clock.2.2).length = 2 :=
  length_padded_two (by simp only [clock]; split <;> omega)

theorem length_timeText (t : Instant) : t.timeText.length = 8 := by
  have hours : (padded 2 t.clock.1).length = 2 :=
    length_padded_two (by have := t.second_lt; simp only [clock]; omega)
  simp [timeText_eq, hours, length_minutes, length_seconds]

theorem timeText_eq_iff {t u : Instant} : t.timeText = u.timeText ↔ t.clock = u.clock := by
  constructor
  · intro h
    rw [timeText_eq, timeText_eq] at h
    obtain ⟨front, seconds⟩ := List.append_inj' h (by simp [length_seconds])
    obtain ⟨hours, minutes⟩ := List.append_inj' front (by simp [length_minutes])
    have hour := padded_injective hours
    have minute := padded_injective (List.cons.inj minutes).2
    have second := padded_injective (List.cons.inj seconds).2
    exact Prod.ext hour (Prod.ext minute second)
  · intro h
    rw [timeText_eq, timeText_eq, h]

/-- The text of an instant shows its date and its clock, and nothing else. -/
theorem text_eq_iff {t u : Instant} : t.text = u.text ↔ t.date = u.date ∧ t.clock = u.clock := by
  constructor
  · intro h
    unfold text at h
    obtain ⟨dates, times⟩ := List.append_inj' h (by simp [length_timeText])
    exact ⟨Date.text_injective dates, timeText_eq_iff.mp (List.cons.inj times).2⟩
  · rintro ⟨date, clock⟩
    rw [text, text, date, timeText_eq_iff.mpr clock]

end Instant

end Profiling
