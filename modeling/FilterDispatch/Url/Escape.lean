import FilterDispatch.Text.Hex
import FilterDispatch.Text.Utf8

/-! Percent escapes: which characters of each part of an address are written as bytes. -/

namespace FilterDispatch.Url

def isControl (c : Char) : Bool :=
  c.toNat < 0x20 || c.toNat == 0x7F

def inFragment (c : Char) : Bool :=
  isControl c || [' ', '"', '<', '>', '\x60'].contains c

def inPath (c : Char) : Bool :=
  inFragment c || ['#', '?', '\x7b', '\x7d'].contains c

def inUserInfo (c : Char) : Bool :=
  inPath c || ['/', ':', ';', '=', '@', '[', '\\', ']', '^', '|'].contains c

def inQuery (c : Char) : Bool :=
  isControl c || [' ', '"', '#', '<', '>'].contains c

/-- In the query of a special address an apostrophe is escaped as well. -/
def inSpecialQuery (c : Char) : Bool :=
  inQuery c || c == '\x27'

def escapeByte (b : UInt8) : List Char :=
  '%' :: Text.upperHexByte b

/-- A character outside ASCII is always escaped. -/
def escapeChar (escaped : Char → Bool) (c : Char) : List Char :=
  if 0x80 ≤ c.toNat || escaped c then (String.utf8EncodeChar c).flatMap escapeByte else [c]

def escape (escaped : Char → Bool) (s : List Char) : List Char :=
  s.flatMap (escapeChar escaped)

/-- Bytes with two hexadecimal digits after each percent sign that has them read as a byte. -/
def unescape : List UInt8 → List UInt8
  | 37 :: a :: b :: rest =>
    match Text.hexValue? (Char.ofNat a.toNat), Text.hexValue? (Char.ofNat b.toNat) with
    | some x, some y => UInt8.ofNat (16 * x + y) :: unescape rest
    | _, _ => 37 :: unescape (a :: b :: rest)
  | b :: rest => b :: unescape rest
  | [] => []

end FilterDispatch.Url
