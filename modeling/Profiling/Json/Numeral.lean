import Profiling.Json.Document

/-!
# JSON numbers

A numeral without point and exponent is an integer if it fits the 64-bit integers, signed below
zero and unsigned above. Any other numeral is a float: its first digits, as many as fit 64 bits,
scaled by a power of ten in float arithmetic.
-/

namespace Profiling

/-- The parts of a numeral. An absent fraction or exponent is `none`. -/
structure Numeral where
  negative : Bool
  whole : List Char
  fraction : Option (List Char)
  exponent : Option (Bool × List Char)
deriving DecidableEq, Repr

namespace Numeral

/-- Reads digits on top of `n` while the result fits 64 bits, and gives the digits left over. -/
def extend (n : Nat) : List Char → Nat × List Char
  | [] => (n, [])
  | c :: rest =>
    if 10 * n + digitValue c < twoTo 64 then extend (10 * n + digitValue c) rest else (n, c :: rest)

/-- The largest power of ten that a float holds. -/
def maxPower : Nat := 308

def power (k : Nat) : Float := Float.ofScientific 1 false k

/-- `x / 10 ^ k`, in steps of the largest power of ten, `fuel` of them at most. -/
def shrink (x : Float) (k : Nat) : (fuel : Nat) → Float
  | 0 => x
  | fuel + 1 =>
    if k ≤ maxPower then x / power k
    else if x == 0 then x
    else shrink (x / power maxPower) (k - maxPower) fuel

/-- `significand · 10 ^ exponent`; `none` if it is too large for a float. -/
def scale (significand : Nat) (exponent : Int) : Option Float :=
  let x := Float.ofNat significand
  if exponent < 0 then some (shrink x exponent.natAbs 4)
  else if exponent ≤ maxPower then
    let y := x * power exponent.toNat
    if y.isInf then none else some y
  else if significand = 0 then some x else none

/-- An exponent past 31 bits is beyond every float. -/
def farExponent (ds : List Char) : Bool := twoTo 31 ≤ digitsValue ds

def toFloat? (n : Numeral) : Option Float :=
  let (wholePart, dropped) := extend 0 n.whole
  let fraction := n.fraction.getD []
  let (significand, unread) := extend wholePart fraction
  let shift : Int := (dropped.length : Int) - (fraction.length - unread.length : Nat)
  let magnitude := match n.exponent with
    | none => scale significand shift
    | some (negative, ds) =>
      if farExponent ds then (if negative || significand = 0 then some 0 else none)
      else scale significand (if negative then shift - digitsValue ds else shift + digitsValue ds)
  magnitude.map fun x => if n.negative then -x else x

/-- The document of a numeral: a number too large to read can still be passed over. -/
def toDocument (n : Numeral) : Document :=
  let value := digitsValue n.whole
  let fits := if n.negative then 0 < value && value ≤ twoTo 63 else value < twoTo 64
  if n.fraction.isNone && n.exponent.isNone && fits then
    .int (if n.negative then -value else value)
  else match n.toFloat? with
    | some x => .float x
    | none => .unreadable .malformed .malformed none

end Numeral

end Profiling
