import Profiling.Decimal.Integer

/-!
# The shortest decimal of a binary number

Every positive number of a binary format is the nearest one to an interval of reals.
`Decimal.shortest?` gives the decimal in that interval with the fewest digits, and of those the one
nearest to the number, in exact integer arithmetic.
-/

namespace Profiling

/-- A binary format of floats. The least positive number is `2 ^ minExponent`. -/
structure BinaryFormat where
  fractionBits : Nat
  exponentBits : Nat
  minExponent : Int
  bits : Float → Nat

namespace BinaryFormat

def double : BinaryFormat := ⟨52, 11, -1074, fun x => x.toBits.toNat⟩

def single : BinaryFormat := ⟨23, 8, -149, fun x => x.toFloat32.toBits.toNat⟩

/-- Mantissa and exponent of the magnitude of a finite float. -/
def parts (f : BinaryFormat) (x : Float) : Nat × Int :=
  let bits : Nat := f.bits x
  let field : Nat := bits / twoTo f.fractionBits % twoTo f.exponentBits
  let fraction : Nat := bits % twoTo f.fractionBits
  if field = 0 then (fraction, f.minExponent)
  else (twoTo f.fractionBits + fraction, (field : Int) - 1 + f.minExponent)

end BinaryFormat

structure Decimal where
  coefficient : Nat
  exponent : Int
deriving DecidableEq, Repr

/-- Which of two decimals is taken when a number lies halfway between them. -/
inductive Tie where
  | up
  | even
deriving DecidableEq, Repr

/-- A positive number `value / den` and the ends `low / den` and `high / den` of the reals that
round to it. The ends themselves round to it iff `closed`. -/
structure Vicinity where
  low : Nat
  value : Nat
  high : Nat
  den : Nat
  closed : Bool
deriving DecidableEq, Repr

namespace Vicinity

/-- The vicinity of `mantissa · 2 ^ exponent`. Below a power of two the neighbour is half as far
away, except at the foot of the format. -/
def ofBinary (f : BinaryFormat) (mantissa : Nat) (exponent : Int) : Vicinity :=
  let unit := twoTo exponent.toNat
  let below :=
    if mantissa = twoTo f.fractionBits ∧ f.minExponent < exponent then unit else 2 * unit
  { low := 4 * mantissa * unit - below
    value := 4 * mantissa * unit
    high := 4 * mantissa * unit + 2 * unit
    den := 4 * twoTo (-exponent).toNat
    closed := mantissa % 2 = 0 }

/-- The vicinity in units of `10 ^ x`. -/
def inUnits (v : Vicinity) (x : Int) : Vicinity :=
  let up := tenTo (-x).toNat
  { v with low := v.low * up, value := v.value * up, high := v.high * up
           den := v.den * tenTo x.toNat }

/-- Whether the integer `d` rounds to the number. -/
def holds (v : Vicinity) (d : Nat) : Bool :=
  if v.closed then v.low ≤ d * v.den && d * v.den ≤ v.high
  else v.low < d * v.den && d * v.den < v.high

/-- The integer next to the number that rounds to it; of two the nearer. -/
def nearest? (v : Vicinity) (tie : Tie) : Option Nat :=
  let d := v.value / v.den
  match v.holds d, v.holds (d + 1) with
  | true, true =>
    match compare (2 * v.value) ((2 * d + 1) * v.den), tie with
    | .lt, _ => some d
    | .gt, _ => some (d + 1)
    | .eq, .up => some (d + 1)
    | .eq, .even => some (if d % 2 = 0 then d else d + 1)
  | true, false => some d
  | false, true => some (d + 1)
  | false, false => none

/-- The exponent of the number's leading decimal digit. -/
def leadingExponent (v : Vicinity) : Int :=
  if v.den ≤ v.value then (natText (v.value / v.den)).length - 1
  else -(natText ((v.den - 1) / v.value)).length

end Vicinity

namespace Decimal

/-- A decimal without zeros at the end of its coefficient, `fuel` of them at most. -/
def dropZeros (d : Decimal) : (fuel : Nat) → Decimal
  | 0 => d
  | fuel + 1 =>
    if d.coefficient % 10 = 0 then dropZeros ⟨d.coefficient / 10, d.exponent + 1⟩ fuel else d

/-- The decimal of at most seventeen digits that stands for a number. -/
def ofVicinity (v : Vicinity) (tie : Tie) : Option Decimal :=
  let top := v.leadingExponent
  (List.range 17).findSome? fun (n : Nat) =>
    let x := top - (n : Int)
    ((v.inUnits x).nearest? tie).map fun d => (Decimal.mk d x).dropZeros 20

/-- The shortest decimal of the magnitude of a finite float; `none` for zero. -/
def shortest? (f : BinaryFormat) (x : Float) (tie : Tie) : Option Decimal :=
  let (mantissa, exponent) := f.parts x
  if mantissa = 0 then none else ofVicinity (.ofBinary f mantissa exponent) tie

end Decimal

end Profiling
