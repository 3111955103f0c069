import Profiling.Calendar.Instant
import Profiling.Frame.CellType
import Profiling.Json.Basic

/-!
# Cells

The typed values of in-memory frames, with their order, their text, and the two ways from one type
to another: `convert` gives a null where there is no such cell, and `cast?` fails there.
-/

namespace Profiling.Frame

inductive Cell where
  | null
  | bool (b : Bool)
  | int (n : Int)
  | float (x : Float)
  | string (s : String)
  /-- Days from 1970-01-01. -/
  | date (day : Int)
  | dateTime (ticks : Int) (perSecond : Nat)
deriving DecidableEq

def toSingle (x : Float) : Float := x.toFloat32.toFloat

/-- Floats in cells keep a point, and show the exponent from `1e16` up and from `1e-6` down. -/
def cellLayout : FloatLayout := { jsonLayout with plus := false }

/-- Floats of 32 bits show the exponent from `1e13` up and from `1e-7` down. -/
def singleLayout : FloatLayout where
  format := .single
  inPlace x := -6 ≤ x && x ≤ 12
  wholePoint := true
  plus := false
  tie := .even

def floatText (l : FloatLayout) (x : Float) : List Char :=
  if x.isNaN then ['N', 'a', 'N']
  else if x.isInf then signText x ++ ['i', 'n', 'f']
  else l.text x

namespace Cell

/-! ### Order -/

/-- Orders floats. NaN equals itself and is greater than every number. -/
def compareFloats (a b : Float) : Ordering :=
  match a.isNaN, b.isNaN with
  | true, true => .eq
  | true, false => .gt
  | false, true => .lt
  | false, false => if a < b then .lt else if a == b then .eq else .gt

/-- The order of two cells of one type that are not null. -/
def order? : Cell → Cell → Option Ordering
  | bool a, bool b => some (compare a b)
  | int a, int b => some (compare a b)
  | float a, float b => some (compareFloats a b)
  | string a, string b => some (compare a b)
  | date a, date b => some (compare a b)
  | dateTime a _, dateTime b _ => some (compare a b)
  | _, _ => none

/-- Whether two cells are the same, where all nulls are. -/
def same (a b : Cell) : Bool :=
  (a == null && b == null) || a.order? b == some .eq

/-- The order of a sort: nulls come first in either direction. -/
def sortOrder (ascending : Bool) (a b : Cell) : Ordering :=
  match a == null, b == null with
  | true, true => .eq
  | true, false => .lt
  | false, true => .gt
  | false, false =>
    let o := (a.order? b).getD .eq
    if ascending then o else o.swap

/-! ### Text and JSON -/

def instant (ticks : Int) (perSecond : Nat) : Instant :=
  let nano := (ticks % perSecond).toNat * (Instant.billion / perSecond)
  Instant.ofSeconds (ticks / perSecond) (nano % Instant.billion)
    (Nat.lt_trans (Nat.mod_lt _ (by decide)) (by decide))

/-- The JSON value of a cell. Dates and instants are texts. -/
def toJson : Cell → Json
  | null => .null
  | bool b => .bool b
  | int n => .int n
  | float x => .ofFloat x
  | string s => .str s
  | date day => .str (String.ofList (Date.ofDayNumber day).text)
  | dateTime ticks perSecond =>
    let t := instant ticks perSecond
    .str (String.ofList (t.text ++ t.fractionText))

/-- The text of a cell that stands for it in a column of texts. The fraction of an instant has the
places of its ticks. -/
def text (type : CellType) : Cell → List Char
  | null => []
  | bool b => if b then ['t', 'r', 'u', 'e'] else ['f', 'a', 'l', 's', 'e']
  | int n => intText n
  | float x => floatText (if type = .float32 then singleLayout else cellLayout) x
  | string s => s.toList
  | date day => (Date.ofDayNumber day).text
  | dateTime ticks perSecond =>
    let places := (natText perSecond).length - 1
    (instant ticks perSecond).text ++ '.' :: padded places (ticks % perSecond).toNat

/-! ### Other types -/

/-- The number that a cell stands for where it meets integers. -/
def toInt? : Cell → Option Int
  | bool b => some b.toNat
  | int n => some n
  | date day => some day
  | dateTime ticks _ => some ticks
  | _ => none

def toFloat? : Cell → Option Float
  | float x => some x
  | c => c.toInt?.map Float.ofInt

/-- Ticks in another unit. A part of a tick is dropped. -/
def rescale (ticks : Int) (fromUnit toUnit : Nat) : Int :=
  if fromUnit ≤ toUnit then ticks * (toUnit / fromUnit : Nat)
  else ticks / (fromUnit / toUnit : Nat)

def convert (source target : CellType) (c : Cell) : Cell :=
  if source = target then c
  else match target with
    | .int _ | .uint _ => ((c.toInt?.filter target.fits).map int).getD null
    | .float32 => (c.toFloat?.map fun x => float (toSingle x)).getD null
    | .float64 => (c.toFloat?.map float).getD null
    | .string => if c == null then null else string (String.ofList (c.text source))
    | .dateTime p =>
      match c with
      | date day => dateTime (day * 86400 * p) p
      | dateTime ticks q => dateTime (rescale ticks q p) p
      | _ => null
    | .boolean | .date | .null => null

def castable (source target : CellType) : Bool :=
  source = target || source = .null || target = .string ||
    (target.isNumeric && (source.isNumeric || source = .boolean || source.isTemporal))

/-- A float without its fraction, if that is an integer of 64 bits. -/
def truncate? (x : Float) : Option Int :=
  let bound := Float.ofNat (twoTo 63)
  if -bound ≤ x && x < bound then some x.toInt64.toInt else none

/-- A cell of one type as one of another; `none` if it does not fit. The fraction of a float is
dropped. -/
def cast? (source target : CellType) (c : Cell) : Option Cell :=
  if c == null || source = target || !target.isInteger then some (convert source target c)
  else do
    let n ← match c with
      | float x => truncate? x
      | c => c.toInt?
    if target.fits n then some (int n) else none

end Cell

end Profiling.Frame
