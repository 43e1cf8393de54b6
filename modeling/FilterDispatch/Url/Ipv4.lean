import FilterDispatch.Text.Numeral
import FilterDispatch.Text.Hex

/-! Hosts that are IPv4 addresses, in any of their numeric spellings. -/

namespace FilterDispatch.Url.Ipv4

def pieces (s : List Char) : List (List Char) :=
  s.splitOn '.'

def radix (s : List Char) : Nat × List Char :=
  match s with
  | '0' :: 'x' :: rest | '0' :: 'X' :: rest => (16, rest)
  | '0' :: c :: rest => (8, c :: rest)
  | s => (10, s)

def inRadix (r : Nat) (ds : List Char) : Option Nat :=
  ds.foldlM (fun n d => do
    let v ← Text.hexValue? d
    if v < r then some (n * r + v) else none) 0

/-- A number with leading `0x` or `0` in base 16 or 8. -/
def number? (s : List Char) : Option Nat :=
  if s.isEmpty then none
  else
    let (r, ds) := radix s
    inRadix r ds

/-- Whether the last piece, or the one before a final dot, is a number. -/
def endsInNumber (s : List Char) : Bool :=
  let last? : Option (List Char) :=
    match (pieces s).reverse with
    | [] :: last :: _ => some last
    | [] :: [] => none
    | last :: _ => some last
    | [] => none
  match last? with
  | none => false
  | some last => (!last.isEmpty && last.all Char.isDigit) || (number? last).isSome

/-- What the byte with so many bytes after it is worth. -/
def place : Nat → Nat
  | 0 => 1
  | after + 1 => 256 * place after

/-- The last number fills the bytes that the others leave. -/
def combine (numbers : List Nat) : Option Nat :=
  match numbers.reverse with
  | [] => none
  | last :: others =>
    let leading := others.reverse
    if 4 < numbers.length then none
    else if place (4 - leading.length) ≤ last then none
    else if leading.any (255 < ·) then none
    else
      some ((leading.zipIdx.map fun (n, i) => n * place (3 - i)).foldl (· + ·) last)

def parse? (s : List Char) : Option Nat :=
  let ps := pieces s
  let ps := if ps.getLast? = some [] then ps.dropLast else ps
  if 4 < ps.length then none
  else
    match ps.mapM number? with
    | none => none
    | some numbers => combine numbers

def text (n : Nat) : List Char :=
  let byte (i : Nat) : List Char := Text.digits (n / place i % 256)
  byte 3 ++ '.' :: byte 2 ++ '.' :: byte 1 ++ '.' :: byte 0

end FilterDispatch.Url.Ipv4
