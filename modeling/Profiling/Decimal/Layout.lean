import Profiling.Decimal.Shortest

/-!
# Layout of float texts

A float is written with its shortest digits. A `FloatLayout` says where the point goes and when
the exponent is written out.
-/

namespace Profiling

structure FloatLayout where
  format : BinaryFormat := .double
  /-- The exponents of the leading digit that are written in place notation. -/
  inPlace : Int → Bool
  /-- Whether a whole number in place notation ends in `.0`. -/
  wholePoint : Bool
  /-- Whether a positive exponent is written with a plus. -/
  plus : Bool := true
  tie : Tie

namespace FloatLayout

/-- Digits in place notation, `point` of them before the point. -/
def place (l : FloatLayout) (digits : List Char) (point : Int) : List Char :=
  if point ≤ 0 then '0' :: '.' :: (List.replicate (-point).toNat '0' ++ digits)
  else if point < digits.length then digits.take point.toNat ++ '.' :: digits.drop point.toNat
  else
    digits ++ List.replicate (point.toNat - digits.length) '0' ++
      (if l.wholePoint then ['.', '0'] else [])

/-- Digits with one before the point, and the exponent written out. -/
def scientific (l : FloatLayout) (digits : List Char) (exponent : Int) : List Char :=
  let fraction := digits.drop 1
  let sign := if exponent < 0 then ['-'] else if l.plus then ['+'] else []
  digits.take 1 ++ (if fraction.isEmpty then [] else '.' :: fraction) ++
    'e' :: sign ++ natText exponent.natAbs

def decimal (l : FloatLayout) (d : Decimal) : List Char :=
  let digits := natText d.coefficient
  let point := digits.length + d.exponent
  if l.inPlace (point - 1) then l.place digits point else l.scientific digits (point - 1)

def magnitude (l : FloatLayout) (x : Float) : List Char :=
  match Decimal.shortest? l.format x l.tie with
  | none => if l.wholePoint then ['0', '.', '0'] else ['0']
  | some d => l.decimal d

end FloatLayout

/-- The sign of a float's text: a minus for every number with the sign bit, zero included. -/
def signText (x : Float) : List Char :=
  if x.toBits.toNat / twoTo 63 = 1 then ['-'] else []

def FloatLayout.text (l : FloatLayout) (x : Float) : List Char :=
  signText x ++ l.magnitude x

/-- Floats in statements and messages never show an exponent, and a whole number has no point. -/
def plainLayout : FloatLayout where
  inPlace _ := true
  wholePoint := false
  tie := .up

/-- Floats in JSON keep a point, and show the exponent from `1e+16` up and from `1e-6` down. -/
def jsonLayout : FloatLayout where
  inPlace x := -5 ≤ x && x ≤ 15
  wholePoint := true
  tie := .even

/-- The text of any float in statements and messages. -/
def plainText (x : Float) : List Char :=
  if x.isNaN then ['N', 'a', 'N']
  else if x.isInf then signText x ++ ['i', 'n', 'f']
  else plainLayout.text x

end Profiling
