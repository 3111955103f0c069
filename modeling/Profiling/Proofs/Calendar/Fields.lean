import Mathlib.Data.List.Forall2
import Profiling.Proofs.Calendar.Clock
import Profiling.Proofs.Calendar.Text

/-!
# Fields of dates and instants

The text of a date or an instant has its digits in fixed places exactly if the year is one of four
digits. The numbers in these places are then the date, and the instant at the start of its second.
-/

namespace Profiling

/-! ### Shapes -/

/-- Whether a text has digits in the places where a pattern has zeros, and is the pattern elsewhere. -/
def HasShape (pattern s : List Char) : Prop :=
  List.Forall₂ (fun p c => if p = '0' then c.isDigit = true else c = p) pattern s

instance (pattern s : List Char) : Decidable (HasShape pattern s) :=
  inferInstanceAs (Decidable (List.Forall₂ _ _ _))

def dayShape : List Char := ['0', '0', '0', '0', '-', '0', '0', '-', '0', '0']

def clockShape : List Char := ['0', '0', ':', '0', '0', ':', '0', '0']

def momentShape : List Char := dayShape ++ ' ' :: clockShape

namespace HasShape

theorem length_eq {pattern s : List Char} (h : HasShape pattern s) : s.length = pattern.length :=
  (List.Forall₂.length_eq h).symm

theorem append {p q s t : List Char} (front : HasShape p s) (back : HasShape q t) : HasShape (p ++ q) (s ++ t) :=
  List.rel_append front back

/-- A character that is no digit stands for itself. -/
theorem mark {c : Char} {p s : List Char} (other : c ≠ '0') (h : HasShape p s) : HasShape (c :: p) (c :: s) := by
  refine List.Forall₂.cons ?_ h
  rw [if_neg other]

theorem digits {s : List Char} (h : ∀ c ∈ s, c.isDigit = true) : HasShape (List.replicate s.length '0') s := by
  induction s with
  | nil => exact List.Forall₂.nil
  | cons c s ih =>
    obtain ⟨first, rest⟩ := List.forall_mem_cons.mp h
    exact List.Forall₂.cons first (ih rest)

theorem padded {width n : Nat} (fits : (padded width n).length = width) :
    HasShape (List.replicate width '0') (padded width n) := by
  have shape := digits fun c (member : c ∈ Profiling.padded width n) => isDigit_of_mem_padded member
  rwa [fits] at shape

end HasShape

/-! ### Fields -/

/-- The number in some places of a text, which are all digits. -/
def field (s : List Char) (start width : Nat) : Nat := digitsValue ((s.drop start).take width)

theorem field_append (front rest : List Char) {width n : Nat} (fits : (padded width n).length = width) :
    field (front ++ (padded width n ++ rest)) front.length width = n := by
  rw [field, List.drop_left, List.take_left' fits, digitsValue_padded]

namespace Date

/-- The date that the fields of a text are, if there is one. -/
def ofFields? (s : List Char) : Option Date := ofYmd? (field s 0 4) (field s 5 2) (field s 8 2)

theorem ofYmd?_self (d : Date) : ofYmd? d.year d.month d.day = some d :=
  dif_pos ⟨⟨d.month_pos, d.month_le⟩, d.day_pos, d.day_le⟩

theorem length_year {year : Int} (inside : 0 ≤ year ∧ year ≤ 9999) : (padded 4 year.toNat).length = 4 :=
  length_padded (show year.toNat < 10000 by omega) (by decide)

/-- Outside of four digits a year is longer by its sign. -/
theorem lt_length_yearText {year : Int} (outside : ¬(0 ≤ year ∧ year ≤ 9999)) : 4 < (yearText year).length := by
  rw [yearText_outside outside]
  simp only [List.length_cons, padded, List.length_append, List.length_replicate]
  omega

theorem hasShape_text {d : Date} (inside : 0 ≤ d.year ∧ d.year ≤ 9999) : HasShape dayShape d.text := by
  have year := HasShape.padded (length_year inside)
  have month := HasShape.padded d.length_month
  have day := HasShape.padded d.length_day
  rw [text, yearText_inside inside, List.append_assoc]
  exact year.append (.mark (by decide) (month.append (.mark (by decide) day)))

theorem hasShape_text_iff {d : Date} : HasShape dayShape d.text ↔ 0 ≤ d.year ∧ d.year ≤ 9999 := by
  refine ⟨fun shape => ?_, hasShape_text⟩
  -- by its length alone, a text with a longer year has another shape
  by_contra outside
  have length := shape.length_eq
  have := lt_length_yearText outside
  simp only [text, List.length_append, List.length_cons, length_month, length_day, dayShape, List.length_nil] at length
  omega

/-! What follows a date does not change its fields. -/

theorem text_append {d : Date} (inside : 0 ≤ d.year ∧ d.year ≤ 9999) (rest : List Char) :
    d.text ++ rest = padded 4 d.year.toNat ++ '-' :: padded 2 d.month ++ '-' :: (padded 2 d.day ++ rest) := by
  simp [text, yearText_inside inside]

theorem field_year {d : Date} (inside : 0 ≤ d.year ∧ d.year ≤ 9999) (rest : List Char) :
    field (d.text ++ rest) 0 4 = d.year.toNat := by
  have read := field_append [] ('-' :: padded 2 d.month ++ '-' :: (padded 2 d.day ++ rest)) (length_year inside)
  simpa [text_append inside] using read

theorem field_month {d : Date} (inside : 0 ≤ d.year ∧ d.year ≤ 9999) (rest : List Char) :
    field (d.text ++ rest) 5 2 = d.month := by
  have read := field_append (padded 4 d.year.toNat ++ ['-']) ('-' :: (padded 2 d.day ++ rest)) d.length_month
  simpa [text_append inside, length_year inside] using read

theorem field_day {d : Date} (inside : 0 ≤ d.year ∧ d.year ≤ 9999) (rest : List Char) :
    field (d.text ++ rest) 8 2 = d.day := by
  have read := field_append (padded 4 d.year.toNat ++ '-' :: padded 2 d.month ++ ['-']) rest d.length_day
  simpa [text_append inside, length_year inside, length_month] using read

theorem ofFields?_text {d : Date} (inside : 0 ≤ d.year ∧ d.year ≤ 9999) (rest : List Char) :
    ofFields? (d.text ++ rest) = some d := by
  rw [ofFields?, field_year inside, field_month inside, field_day inside, Int.toNat_of_nonneg inside.1, ofYmd?_self]

end Date

namespace Instant

variable {t u : Instant}

def ofFields? (s : List Char) : Option Instant :=
  (Date.ofFields? s).bind fun date => ofHms? date (field s 11 2) (field s 14 2) (field s 17 2) 0

theorem length_hours (t : Instant) : (padded 2 t.clock.1).length = 2 :=
  length_padded_two (by have := t.second_lt; simp only [clock]; omega)

theorem hasShape_timeText (t : Instant) : HasShape clockShape t.timeText := by
  have hours := HasShape.padded t.length_hours
  have minutes := HasShape.padded t.length_minutes
  have seconds := HasShape.padded t.length_seconds
  rw [timeText_eq, List.append_assoc]
  exact hours.append (.mark (by decide) (minutes.append (.mark (by decide) seconds)))

theorem hasShape_text (inside : 0 ≤ t.date.year ∧ t.date.year ≤ 9999) : HasShape momentShape t.text :=
  (Date.hasShape_text inside).append (.mark (by decide) t.hasShape_timeText)

theorem hasShape_text_iff : HasShape momentShape t.text ↔ 0 ≤ t.date.year ∧ t.date.year ≤ 9999 := by
  refine ⟨fun shape => ?_, hasShape_text⟩
  by_contra outside
  have length := shape.length_eq
  have := Date.lt_length_yearText outside
  simp only [text, Date.text, List.length_append, List.length_cons, length_timeText, Date.length_month,
    Date.length_day, momentShape, dayShape, clockShape, List.length_nil] at length
  omega

/-! ### Whole seconds -/

/-- The start of the second that an instant lies in. -/
def floor (t : Instant) : Instant := { t with nano := 0, nano_lt := by decide }

theorem plain_floor (t : Instant) : t.floor.isLeapSecond = false := rfl

theorem seconds_floor (plain : t.isLeapSecond = false) : t.floor.seconds = t.seconds := by
  rw [seconds_of_plain plain, seconds_of_plain t.plain_floor]
  rfl

theorem plain_next (plain : t.isLeapSecond = false) : t.next.isLeapSecond = false :=
  (isLeapSecond_congr t.nano_next).trans plain

theorem floor_le (plain : t.isLeapSecond = false) : t.floor ≤ t :=
  (le_iff_seconds t.plain_floor plain).mpr (.inr ⟨seconds_floor plain, Nat.zero_le t.nano⟩)

theorem lt_next_of_seconds (t_plain : t.isLeapSecond = false) (u_plain : u.isLeapSecond = false)
    (same : t.seconds = u.seconds) : t < u.next := by
  rw [← not_le, le_iff_seconds (plain_next u_plain) t_plain, seconds_next]
  omega

theorem next_le_next (t_plain : t.isLeapSecond = false) (u_plain : u.isLeapSecond = false) (ordered : t ≤ u) :
    t.next ≤ u.next := by
  have counts := (le_iff_seconds t_plain u_plain).mp ordered
  rw [le_iff_seconds (plain_next t_plain) (plain_next u_plain), seconds_next, seconds_next, nano_next, nano_next]
  omega

theorem lt_next_floor (plain : t.isLeapSecond = false) : t < t.floor.next :=
  lt_next_of_seconds plain t.plain_floor (seconds_floor plain).symm

theorem ofHms?_clock (plain : t.isLeapSecond = false) :
    ofHms? t.date t.clock.1 t.clock.2.1 t.clock.2.2 0 = some t.floor := by
  have := t.second_lt
  have inDay : t.second / 3600 < 24 ∧ t.second / 60 % 60 < 60 ∧ t.second % 60 < 60 := by omega
  have clock : t.clock = (t.second / 3600, t.second / 60 % 60, t.second % 60) := by simp [Instant.clock, plain]
  rw [clock, ofHms?, dif_pos ⟨inDay, by decide⟩, if_pos (.inl (by decide))]
  refine congrArg some (key_injective ?_)
  have second : t.second / 3600 * 3600 + t.second / 60 % 60 * 60 + t.second % 60 = t.second := by omega
  simp only [key, floor, second]

/-- The fields of an instant's text are the start of its second. -/
theorem ofFields?_text (plain : t.isLeapSecond = false) (inside : 0 ≤ t.date.year ∧ t.date.year ≤ 9999) :
    ofFields? t.text = some t.floor := by
  have date : Date.ofFields? t.text = some t.date := Date.ofFields?_text inside (' ' :: t.timeText)
  have length : t.date.text.length = 10 := (Date.hasShape_text inside).length_eq
  have hours : field t.text 11 2 = t.clock.1 := by
    have read := field_append (t.date.text ++ [' ']) (':' :: padded 2 t.clock.2.1 ++ ':' :: padded 2 t.clock.2.2)
      t.length_hours
    simpa [text, timeText_eq, length] using read
  have minutes : field t.text 14 2 = t.clock.2.1 := by
    have read := field_append (t.date.text ++ ' ' :: padded 2 t.clock.1 ++ [':']) (':' :: padded 2 t.clock.2.2)
      t.length_minutes
    simpa [text, timeText_eq, length, length_hours] using read
  have seconds : field t.text 17 2 = t.clock.2.2 := by
    have read := field_append (t.date.text ++ ' ' :: padded 2 t.clock.1 ++ ':' :: padded 2 t.clock.2.1 ++ [':']) []
      t.length_seconds
    simpa [text, timeText_eq, length, length_hours, length_minutes] using read
  rw [ofFields?, date, Option.bind_some, hours, minutes, seconds, ofHms?_clock plain]

end Instant

end Profiling
