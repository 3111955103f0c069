/-!
# Blank characters

The characters with the Unicode property White_Space, and texts without them at the ends.
-/

namespace Profiling.Text

/-- The Unicode property White_Space. -/
def isBlank (c : Char) : Bool :=
  let n := c.toNat
  (9 ≤ n && n ≤ 13) || n == 0x20 || n == 0x85 || n == 0xA0 || n == 0x1680 ||
    (0x2000 ≤ n && n ≤ 0x200A) || n == 0x2028 || n == 0x2029 || n == 0x202F || n == 0x205F ||
    n == 0x3000

/-- `s` without its longest tail of characters in `p`. -/
def dropTailWhile (p : Char → Bool) (s : List Char) : List Char :=
  (s.reverse.dropWhile p).reverse

def trim (s : List Char) : List Char :=
  dropTailWhile isBlank (s.dropWhile isBlank)

def isAllBlank (s : String) : Bool :=
  s.toList.all isBlank

theorem dropTailWhile_append_takeTail (p : Char → Bool) (s : List Char) :
    dropTailWhile p s ++ (s.reverse.takeWhile p).reverse = s := by
  rw [dropTailWhile, ← List.reverse_append, List.takeWhile_append_dropWhile, List.reverse_reverse]

end Profiling.Text
