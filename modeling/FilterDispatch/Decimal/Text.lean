import FilterDispatch.Decimal.Shortest

/-!
Doubles as text.  Exponents of the leading digit from -5 to 15 are written positionally and with
at least one digit on each side of the point; all others scientifically, the exponent with its
sign.
-/

namespace FilterDispatch.Decimal

/-- Exponents of the leading digit that are written positionally. -/
structure Range where
  lowest : Int
  highest : Int

def positional : Range := ⟨-5, 15⟩

def zeros (n : Nat) : List Char :=
  List.replicate n '0'

def exponentText (e : Int) : List Char :=
  (if e < 0 then '-' else '+') :: Text.digits e.natAbs

def Numeral.chars (d : Numeral) : List Char :=
  let ds := Text.digits d.digits
  let lead := d.exponent + Int.ofNat ds.length - 1
  if positional.lowest ≤ lead ∧ lead ≤ positional.highest then
    if lead < 0 then '0' :: '.' :: (zeros (lead.natAbs - 1) ++ ds)
    else
      let whole := lead.toNat + 1
      let padded := ds ++ zeros (whole - ds.length)
      let rest := padded.drop whole
      padded.take whole ++ '.' :: (if rest.isEmpty then ['0'] else rest)
  else
    match ds with
    | [] => []
    | [c] => c :: 'e' :: exponentText lead
    | c :: rest => c :: '.' :: (rest ++ 'e' :: exponentText lead)

/-- What the sign bit of a double is worth. -/
def signBit : Nat := 9223372036854775808

def floatText (x : Float) : String :=
  let bits := x.toBits.toNat
  let sign : List Char := if bits / signBit = 1 then ['-'] else []
  let magnitude := bits % signBit
  String.ofList
    (sign ++ if magnitude = 0 then ['0', '.', '0'] else (shortest (Binary.ofBits magnitude)).chars)

end FilterDispatch.Decimal
