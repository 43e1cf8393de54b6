import FilterDispatch.Text.Hex
import FilterDispatch.Text.Numeral

/-! Hosts that are IPv6 addresses: eight pieces of sixteen bits. -/

namespace FilterDispatch.Url.Ipv6

def piece? (s : List Char) : Option Nat :=
  if s.isEmpty ∨ 4 < s.length then none
  else
    s.foldlM (fun n d => do
      let v ← Text.hexValue? d
      some (16 * n + v)) 0

/-- A decimal byte without leading zeros. -/
def byte? (s : List Char) : Option Nat :=
  if s.isEmpty ∨ 3 < s.length ∨ (1 < s.length ∧ s.head? = some '0') then none
  else
    match Text.readNat s with
    | some n => if n < 256 then some n else none
    | none => none

/-- Four bytes with dots between them stand for two pieces. -/
def dotted? (s : List Char) : Option (List Nat) :=
  match (s.splitOn '.').mapM byte? with
  | some [a, b, c, d] => some [256 * a + b, 256 * c + d]
  | _ => none

/-- Pieces with colons between them; the last may be dotted if the address may end here. -/
def run? (atEnd : Bool) (s : List Char) : Option (List Nat) :=
  if s.isEmpty then some []
  else
    let parts := s.splitOn ':'
    match parts.getLast? with
    | none => some []
    | some last =>
      if atEnd && last.contains '.' then do
        let leading ← parts.dropLast.mapM piece?
        let tail ← dotted? last
        return leading ++ tail
      else parts.mapM piece?

/-- Cuts at the first pair of colons. -/
def cut : List Char → List Char × Option (List Char)
  | ':' :: ':' :: rest => ([], some rest)
  | c :: rest =>
    let (left, right) := cut rest
    (c :: left, right)
  | [] => ([], none)

/-- A pair of colons stands for one zero piece or more. -/
def parse? (s : List Char) : Option (List Nat) :=
  match cut s with
  | (all, none) =>
    match run? true all with
    | some ps => if ps.length = 8 then some ps else none
    | none => none
  | (left, some right) =>
    match run? false left, run? true right with
    | some ls, some rs =>
      if ls.length + rs.length ≤ 7 then
        some (ls ++ List.replicate (8 - ls.length - rs.length) 0 ++ rs)
      else none
    | _, _ => none

/-- How many zeros the list starts with. -/
def zerosAt (ps : List Nat) : Nat :=
  (ps.takeWhile (· == 0)).length

/-- Start and length of the longest run of two zeros or more, the first of several. -/
def longestZeros (ps : List Nat) : Option (Nat × Nat) :=
  let runs := (List.range ps.length).map fun i => (i, zerosAt (ps.drop i))
  let best := runs.foldl (fun best r => if best.2 < r.2 then r else best) (0, 0)
  if 2 ≤ best.2 then some best else none

def joined (ps : List Nat) : List Char :=
  [':'].intercalate (ps.map Text.hexDigits)

def text (ps : List Nat) : List Char :=
  match longestZeros ps with
  | none => joined ps
  | some (start, length) => joined (ps.take start) ++ [':', ':'] ++ joined (ps.drop (start + length))

end FilterDispatch.Url.Ipv6
