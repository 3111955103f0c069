import Mathlib.Logic.Function.Iterate
import Profiling.Calendar.Instant
import Profiling.Proofs.Calendar.Days

/-!
# Seconds of the clock

`Instant.next` is one second later, by the end of the day and the day after it alone. The count of
seconds goes up by one with it and tells instants apart that are as far into their second.
-/

namespace Profiling

namespace Instant

variable {t u : Instant}

/-! ### Order -/

/-- Date, second and nanosecond, of which an earlier one outweighs the later ones. -/
def key (t : Instant) : Date ×ₗ Nat ×ₗ Nat := toLex (t.date, toLex (t.second, t.nano))

theorem key_injective : Function.Injective key := by
  intro t u same
  have parts := Prod.ext_iff.mp (toLex.injective same)
  have inner := Prod.ext_iff.mp (toLex.injective parts.2)
  cases t
  cases u
  simp only [mk.injEq]
  exact ⟨parts.1, inner.1, inner.2⟩

instance : LinearOrder Instant := LinearOrder.lift' key key_injective

theorem le_iff : t ≤ u ↔
    t.date < u.date ∨ t.date = u.date ∧ (t.second < u.second ∨ t.second = u.second ∧ t.nano ≤ u.nano) := by
  show key t ≤ key u ↔ _
  simp only [key, Prod.Lex.toLex_le_toLex]

theorem date_le (ordered : t ≤ u) : t.date ≤ u.date := by
  rcases le_iff.mp ordered with date | ⟨date, -⟩
  · exact date.le
  · exact date.le

/-! ### Counts -/

theorem isLeapSecond_congr (same : t.nano = u.nano) : t.isLeapSecond = u.isLeapSecond := by
  unfold isLeapSecond
  rw [same]

theorem seconds_of_plain (plain : t.isLeapSecond = false) : t.seconds = t.date.dayNumber * 86400 + t.second := by
  simp [seconds, plain]

theorem ext_of_seconds (seconds : t.seconds = u.seconds) (nano : t.nano = u.nano) : t = u := by
  have := t.second_lt
  have := u.second_lt
  unfold Instant.seconds at seconds
  rw [isLeapSecond_congr nano] at seconds
  have day : t.date = u.date := Date.dayNumber_injective (by omega)
  have second : t.second = u.second := by rw [day] at seconds; omega
  cases t
  cases u
  simp only [mk.injEq]
  exact ⟨day, second, nano⟩

theorem seconds_ofSeconds {n : Int} {nano : Nat} (nano_lt : nano < 2000000000) (plain : nano < billion) :
    (ofSeconds n nano nano_lt).seconds = n := by
  have short : (ofSeconds n nano nano_lt).isLeapSecond = false :=
    decide_eq_false (Nat.not_le.mpr plain)
  rw [seconds_of_plain short]
  simp only [ofSeconds, Date.dayNumber_ofDayNumber]
  omega

/-- Outside of leap seconds the counts have the order of the instants. -/
theorem le_iff_seconds (t_plain : t.isLeapSecond = false) (u_plain : u.isLeapSecond = false) :
    t ≤ u ↔ t.seconds < u.seconds ∨ t.seconds = u.seconds ∧ t.nano ≤ u.nano := by
  have := t.second_lt
  have := u.second_lt
  rw [le_iff, seconds_of_plain t_plain, seconds_of_plain u_plain, ← Date.dayNumber_lt_iff,
    ← Date.dayNumber_injective.eq_iff]
  omega

def nanoseconds (t : Instant) : Int := t.seconds * billion + t.nano % billion

theorem le_iff_nanoseconds {t u : Instant} (t_plain : t.isLeapSecond = false) (u_plain : u.isLeapSecond = false) :
    t ≤ u ↔ t.nanoseconds ≤ u.nanoseconds := by
  have : t.nano < billion := Nat.lt_of_not_le (of_decide_eq_false t_plain)
  have : u.nano < billion := Nat.lt_of_not_le (of_decide_eq_false u_plain)
  rw [le_iff_seconds t_plain u_plain]
  unfold nanoseconds
  simp only [billion] at *
  omega

/-! ### Second by second -/

/-- A second later, where no leap second comes between. -/
def next (t : Instant) : Instant :=
  if inDay : t.second + 1 < 86400 then { t with second := t.second + 1, second_lt := inDay }
  else { t with date := t.date.next, second := 0, second_lt := by decide }

theorem nano_next (t : Instant) : t.next.nano = t.nano := by
  unfold next
  split <;> rfl

theorem seconds_next (t : Instant) : t.next.seconds = t.seconds + 1 := by
  have := t.second_lt
  unfold seconds
  rw [isLeapSecond_congr t.nano_next]
  unfold next
  split
  · dsimp only
    omega
  · dsimp only
    rw [Date.dayNumber_next]
    omega

theorem nano_iterate_next (n : Nat) (t : Instant) : (next^[n] t).nano = t.nano := by
  induction n with
  | zero => rfl
  | succ n ih => rw [Function.iterate_succ_apply', nano_next, ih]

theorem seconds_iterate_next (n : Nat) (t : Instant) : (next^[n] t).seconds = t.seconds + n := by
  induction n with
  | zero => simp
  | succ n ih =>
    rw [Function.iterate_succ_apply', seconds_next, ih]
    omega

theorem iterate_next_eq_iff {n : Nat} : next^[n] t = u ↔ t.seconds = u.seconds - n ∧ t.nano = u.nano := by
  constructor
  · rintro rfl
    rw [seconds_iterate_next, nano_iterate_next]
    exact ⟨by omega, rfl⟩
  · rintro ⟨seconds, nano⟩
    refine ext_of_seconds ?_ ?_
    · rw [seconds_iterate_next]
      omega
    · rw [nano_iterate_next, nano]

end Instant

end Profiling
