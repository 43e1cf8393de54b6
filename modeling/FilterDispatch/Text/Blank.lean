/-! White space as Unicode's `White_Space` property has it, and texts stripped of it. -/

namespace FilterDispatch.Text

def isBlank (c : Char) : Bool :=
  let n := c.toNat
  (9 ≤ n && n ≤ 13) || n == 0x20 || n == 0x85 || n == 0xA0 || n == 0x1680 ||
    (0x2000 ≤ n && n ≤ 0x200A) || n == 0x2028 || n == 0x2029 || n == 0x202F || n == 0x205F ||
    n == 0x3000

def stripLeft (s : List Char) : List Char :=
  s.dropWhile isBlank

def stripRight (s : List Char) : List Char :=
  (s.reverse.dropWhile isBlank).reverse

/-- Drops blanks at both ends and none inside. -/
def strip (s : List Char) : List Char :=
  stripRight (stripLeft s)

end FilterDispatch.Text
