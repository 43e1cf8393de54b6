import FilterDispatch.Text.Hex

/-!
Sets of characters and maps from them, written as ranges of code points in ascending order and
searched by halving.
-/

namespace FilterDispatch.Text

/-- A number in hexadecimal digits. -/
def readHex (s : String) : Nat :=
  s.toList.foldl (fun n c => 16 * n + (hexValue? c).getD 0) 0

/-- Words between blanks, line by line. -/
def wordsOf (lines : List String) : List String :=
  lines.flatMap fun line => line.splitOn " "

/-- How many of the starts, which ascend, lie in the given part and do not exceed the number; the
part begins at `low`, and all starts before it do not exceed the number either. -/
def startsUpTo (start : Nat → Nat) (n low high : Nat) : Nat :=
  if low < high then
    let middle := (low + high) / 2
    if start middle ≤ n then startsUpTo start n (middle + 1) high
    else startsUpTo start n low middle
  else low
termination_by high - low

structure CodeRange where
  first : Nat
  last : Nat
  deriving DecidableEq, Repr

/-- One code point, or the first and the last one with a dash between them. -/
def CodeRange.ofText (s : String) : CodeRange :=
  match s.splitOn "-" with
  | [first, last] => ⟨readHex first, readHex last⟩
  | _ => ⟨readHex s, readHex s⟩

structure CodeSet where
  ranges : Array CodeRange := #[]
  deriving Repr

namespace CodeSet

def ofTexts (lines : List String) : CodeSet :=
  ⟨((wordsOf lines).map CodeRange.ofText).toArray⟩

def start (s : CodeSet) (i : Nat) : Nat :=
  match s.ranges[i]? with
  | some r => r.first
  | none => 0

/-- The last range that starts at or before the code point decides. -/
def contains (s : CodeSet) (c : Char) : Bool :=
  match s.ranges[startsUpTo s.start c.toNat 0 s.ranges.size - 1]? with
  | some r => r.first ≤ c.toNat && c.toNat ≤ r.last
  | none => false

end CodeSet

end FilterDispatch.Text
