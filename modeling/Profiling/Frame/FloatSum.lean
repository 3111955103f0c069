/-!
# Sums of floats

The sum of a column adds blocks of numbers rather than one number after the other, so that rounding
errors stay small: `floatSum` fixes the order of the additions. `add` is the addition, which
rounds to the width of the column.
-/

namespace Profiling.Frame

def blockSize : Nat := 128

/-- The sums of numbers that stand at the same place in two lists. -/
def addLanes (add : Float → Float → Float) (a b : List Float) : List Float :=
  (a.zip b).map fun (x, y) => add x y

/-- The sum of lanes: the second half is added onto the first, `fuel` times at most. -/
def sumLanes (add : Float → Float → Float) : (fuel : Nat) → List Float → Float
  | 0, xs => xs.head?.getD 0
  | fuel + 1, xs =>
    let half := xs.length / 2
    if half = 0 then xs.head?.getD 0
    else sumLanes add fuel (addLanes add (xs.take half) (xs.drop half))

/-- The sum of a block, in sixteen lanes. -/
def sumBlock (add : Float → Float → Float) (xs : List Float) : Float :=
  let lanes := (List.range 8).map fun i => (xs.drop (16 * i)).take 16
  sumLanes add 4 (lanes.foldl (addLanes add) (List.replicate 16 0))

/-- The sum of a number of blocks, half of them at a time. -/
def sumBlocks (add : Float → Float → Float) : (fuel : Nat) → List Float → Float
  | 0, xs => sumBlock add xs
  | fuel + 1, xs =>
    let blocks := xs.length / blockSize
    if blocks ≤ 1 then sumBlock add xs
    else
      let half := blocks / 2 * blockSize
      add (sumBlocks add fuel (xs.take half)) (sumBlocks add fuel (xs.drop half))

/-- The sum of a column: its whole blocks, and the numbers in front that fill none. -/
def floatSum (add : Float → Float → Float) (xs : List Float) : Float :=
  let loose := xs.length % blockSize
  let main := xs.drop loose
  let blocks := if main.isEmpty then 0 else sumBlocks add main.length main
  add blocks ((xs.take loose).foldl add 0)

end Profiling.Frame
