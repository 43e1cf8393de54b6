import FilterDispatch.Text.Numeral

/-!
The fewest decimal digits that read back as a given double.  A finite double is m·2^q, and every
real of the interval around it that rounds to it reads back as it; on the grid of each number of
digits only the two neighbours of the value can lie nearest to it in that interval.
-/

namespace FilterDispatch.Decimal

/-- The number `digits · 10^exponent`. -/
structure Numeral where
  digits : Nat
  exponent : Int
  deriving DecidableEq, Repr

/-- A positive double as m·2^q, with q the exponent of its unit in the last place. -/
structure Binary where
  mantissa : Nat
  exponent : Int
  deriving DecidableEq, Repr

/-- The leading bit of a normal mantissa, one above the bits that are stored. -/
def hiddenBit : Nat := 4503599627370496

def Binary.ofBits (bits : Nat) : Binary :=
  let stored := bits / hiddenBit % 2048
  let fraction := bits % hiddenBit
  if stored = 0 then ⟨fraction, -1074⟩ else ⟨fraction + hiddenBit, Int.ofNat stored - 1075⟩

/-- The lower neighbour of a power of two is only half as far as the upper one. -/
def Binary.narrowBelow (b : Binary) : Bool :=
  b.mantissa == hiddenBit && b.exponent != -1074

/-- `a·2^i` and `b·10^j` over a common denominator. -/
def scaled (a : Nat) (i : Int) (b : Nat) (j : Int) : Nat × Nat :=
  (a * Nat.pow 2 i.toNat * Nat.pow 10 (-j).toNat,
    b * Nat.pow 10 j.toNat * Nat.pow 2 (-i).toNat)

/-- Whether the decimal reads back as the double; an end of the interval does if m is even. -/
def readsBack (x : Binary) (d : Numeral) : Bool :=
  let (upper, value) := scaled (4 * x.mantissa + 2) (x.exponent - 2) d.digits d.exponent
  let (lower, value') :=
    scaled (if x.narrowBelow then 4 * x.mantissa - 1 else 4 * x.mantissa - 2) (x.exponent - 2)
      d.digits d.exponent
  if x.mantissa % 2 == 0 then lower ≤ value' && value ≤ upper
  else lower < value' && value < upper

/-- The greatest decimal with the given exponent that is at most the double. -/
def below (x : Binary) (exponent : Int) : Numeral :=
  let (value, unit) := scaled x.mantissa x.exponent 1 exponent
  ⟨value / unit, exponent⟩

/-- How far the double lies above `below` and under the next decimal, over one denominator. -/
def gaps (x : Binary) (exponent : Int) : Nat × Nat :=
  let (value, unit) := scaled x.mantissa x.exponent 1 exponent
  (value % unit, unit - value % unit)

/-- The nearer of the two neighbours on a grid among those that read back; of two equally near
ones that with even digits. -/
def onGrid (x : Binary) (exponent : Int) : Option Numeral :=
  let low := below x exponent
  let high : Numeral := ⟨low.digits + 1, exponent⟩
  let (down, up) := gaps x exponent
  match readsBack x low, readsBack x high with
  | true, true =>
    some (if down < up ∨ (down = up ∧ low.digits % 2 = 0) then low else high)
  | true, false => some low
  | false, true => some high
  | false, false => none

/-- The exponent of the leading decimal digit. -/
def leading (x : Binary) : Int :=
  let (value, unit) := scaled x.mantissa x.exponent 1 0
  if unit ≤ value then Int.ofNat (Text.digits (value / unit)).length - 1
  else
    let shift := (Text.digits (unit / value)).length
    let (value', unit') := scaled x.mantissa x.exponent 1 (-Int.ofNat shift)
    Int.ofNat (Text.digits (value' / unit')).length - 1 - Int.ofNat shift

/-- Tries grids of more and more digits from the given one. -/
def search (x : Binary) (lead : Int) : Nat → Nat → Numeral
  | 0, _ => ⟨x.mantissa, 0⟩
  | tries + 1, count =>
    match onGrid x (lead - Int.ofNat count + 1) with
    | some d => d
    | none => search x lead tries (count + 1)

def trimZeros : Nat → Numeral → Numeral
  | 0, d => d
  | fuel + 1, d =>
    if d.digits ≠ 0 ∧ d.digits % 10 = 0 then trimZeros fuel ⟨d.digits / 10, d.exponent + 1⟩ else d

/-- The shortest decimal of a positive finite double. -/
def shortest (x : Binary) : Numeral :=
  trimZeros 20 (search x (leading x) 18 1)

end FilterDispatch.Decimal
