import Profiling.Calendar.Instant
import Profiling.Frame.Cell

/-!
# Dates and instants in texts

A text that a date column is compared with is read as a date, and one that a column of instants is
compared with as an instant, if it has the form of one. Listed texts are read in a wider form of
dates, and in a narrower one of instants.
-/

namespace Profiling.Frame

namespace TemporalText

/-- The number that so many digits at the start of a text stand for. -/
def digits (count : Nat) (s : List Char) : Option (Nat × List Char) :=
  let ds := s.take count
  if ds.length = count && ds.all Char.isDigit then some (digitsValue ds, s.drop count) else none

/-- The number that up to so many digits at the start of a text stand for, at least one. -/
def upTo (count : Nat) (s : List Char) : Option (Nat × List Char) :=
  let ds := (s.take count).takeWhile Char.isDigit
  if ds.isEmpty then none else some (digitsValue ds, s.drop ds.length)

def sign (c : Char) : List Char → Option (List Char)
  | [] => none
  | d :: rest => if c = d then some rest else none

/-- The date of a year, a month and a day; `none` inside if there is no such day. -/
abbrev Day := Option Int

def day (year month day : Nat) : Day :=
  (Date.ofYmd? year month day).map Date.dayNumber

def date (s : List Char) : Option (Day × List Char) := do
  let (y, s) ← digits 4 s
  let s ← sign '-' s
  let (m, s) ← digits 2 s
  let s ← sign '-' s
  let (d, s) ← digits 2 s
  if m < 20 && d < 40 then return (day y m d, s) else none

/-- The nanoseconds that digits behind a point stand for, of which nine count. -/
def nanoseconds (ds : List Char) : Nat :=
  digitsValue (ds.take 9) * tenTo (9 - ds.length)

/-- The nanoseconds of a fraction of a second, which may be missing. -/
def fraction (s : List Char) : Option Nat :=
  match s with
  | [] => some 0
  | '.' :: ds =>
    if !ds.isEmpty && ds.length ≤ 9 && ds.all Char.isDigit then some (nanoseconds ds) else none
  | _ => none

/-- A time of day of two digits for each part, where the seconds may be missing: the seconds and
the nanoseconds from midnight. -/
def time (s : List Char) : Option (Nat × Nat) := do
  let (h, s) ← digits 2 s
  let s ← sign ':' s
  let (m, s) ← digits 2 s
  let (second, nano) ← match s with
    | [] => pure (0, 0)
    | s => do
      let s ← sign ':' s
      let (second, s) ← digits 2 s
      pure (second, ← fraction s)
  if h < 24 && m < 60 && second < 60 then return (h * 3600 + m * 60 + second, nano) else none

/-- The cell of an instant. A part of a tick is dropped. -/
def instant (perSecond : Nat) (day : Int) (second nano : Nat) : Cell :=
  .dateTime ((day * 86400 + second) * perSecond + nano * perSecond / Instant.billion) perSecond

/-- The cell that a compared text stands for beside a column of a type; `none` inside if there is
no such day, and `none` if it has not the form of one. -/
def compared? (type : CellType) (s : List Char) : Option (Option Cell) :=
  match type with
  | .date =>
    match date s with
    | some (day, []) => some (day.map .date)
    | _ => none
  | .dateTime p => do
    let (day, rest) ← date s
    let (second, nano) ← match rest with
      | [] => pure (0, 0)
      | c :: rest => if c = ' ' || c = 'T' then time rest else none
    return day.map fun day => instant p day second nano
  | _ => none

/-- The seconds and nanoseconds at the start of a text, as far as it has them. -/
def seconds (s : List Char) : Nat × Nat :=
  match s with
  | ':' :: rest =>
    match upTo 2 rest with
    | some (second, '.' :: ds) => (second, nanoseconds (ds.takeWhile Char.isDigit))
    | some (second, _) => (second, 0)
    | none => (0, 0)
  | _ => (0, 0)

/-- The cell that a listed text stands for in a column of a type. What follows the time of an
instant is not read. -/
def listed? (type : CellType) (s : List Char) : Option Cell := do
  let (y, s) ← upTo 4 s
  let s ← sign '-' s
  let (m, s) ← upTo 2 s
  let s ← sign '-' s
  let (d, s) ← upTo 2 s
  let day ← day y m d
  match type with
  | .date => if s.isEmpty then return .date day else none
  | .dateTime p =>
    let s ← sign 'T' s
    let (h, s) ← upTo 2 s
    let s ← sign ':' s
    let (m, s) ← upTo 2 s
    let (second, nano) := seconds s
    if h < 24 && m < 60 && second ≤ 60 then
      return instant p day (h * 3600 + m * 60 + second) nano
    else none
  | _ => none

end TemporalText

end Profiling.Frame
