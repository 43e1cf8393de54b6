/-! Decimal numerals: how whole numbers are written, and which texts are read as one. -/

namespace FilterDispatch.Text

def digitChar (n : Nat) : Char :=
  Char.ofNat (48 + n)

def digitValue (c : Char) : Nat :=
  c.toNat - 48

/-- The digits of a number, the most significant first and no leading zero. -/
def digits (n : Nat) : List Char :=
  if n < 10 then [digitChar n] else digits (n / 10) ++ [digitChar (n % 10)]

def ofDigits (ds : List Char) : Nat :=
  ds.foldl (fun n d => 10 * n + digitValue d) 0

def signedDigits (i : Int) : List Char :=
  if i < 0 then '-' :: digits i.natAbs else digits i.natAbs

/-- One or more ASCII digits. -/
def readNat (s : List Char) : Option Nat :=
  if s ≠ [] ∧ s.all Char.isDigit then some (ofDigits s) else none

/-- An optional sign and then one or more ASCII digits. -/
def readInt : List Char → Option Int
  | '+' :: ds => (readNat ds).map Int.ofNat
  | '-' :: ds => (readNat ds).map fun n => -Int.ofNat n
  | ds => (readNat ds).map Int.ofNat

def natText (n : Nat) : String :=
  String.ofList (digits n)

def intText (i : Int) : String :=
  String.ofList (signedDigits i)

end FilterDispatch.Text
