import FilterDispatch.Json.Basic
import FilterDispatch.Json.Cursor

/-!
Numbers of a JSON text.  Digits are gathered into a 64-bit significand for as long as they fit;
what does not fit only moves the power of ten.  The double is the significand times or divided by
that power, each step rounded.
-/

namespace FilterDispatch.Json.Reader

def largest64 : Nat := 18446744073709551615

/-- The greatest distance from zero of a negative whole number. -/
def deepestNegative : Nat := 9223372036854775808

def largestExponent : Nat := 2147483647

/-- Digits that come next, as long as they do. -/
def peekDigit? : Reader (Option Nat) := do
  match ← peek? with
  | some c => return if c.isDigit then some (c.toNat - 48) else none
  | none => return none

/-- Passes the digits that come next and says how many they were. -/
def skipDigits : Nat → Nat → Reader Nat
  | 0, passed => return passed
  | fuel + 1, passed => do
    match ← peekDigit? with
    | some _ => do
      skip
      skipDigits fuel (passed + 1)
    | none => return passed

def remaining : Reader Nat := do
  return (← get).rest.length

def powerOfTen (n : Nat) : Float :=
  Float.ofScientific 1 false n

/-- The significand times ten to the exponent. -/
def scale : Nat → Float → Int → Reader Float
  | 0, f, _ => return f
  | fuel + 1, f, exponent =>
    if exponent.natAbs ≤ 308 then
      if 0 ≤ exponent then
        let g := f * powerOfTen exponent.natAbs
        if g.isInf then failHere .numberTooLarge else return g
      else return f / powerOfTen exponent.natAbs
    else if f == 0.0 then return f
    else if 0 ≤ exponent then failHere .numberTooLarge
    else scale fuel (f / powerOfTen 308) (exponent + 308)

def real (positive : Bool) (significand : Nat) (exponent : Int) : Reader Float := do
  let f ← scale (exponent.natAbs / 308 + 2) significand.toUInt64.toFloat exponent
  return if positive then f else -f

/-- An exponent beyond 32 bits: zero stays zero, all else is out of range or vanishes. -/
def hugeExponent (positive isZero up : Bool) : Reader Float := do
  if !isZero && up then failHere .numberTooLarge
  let _ ← skipDigits (← remaining) 0
  return if positive then 0.0 else -0.0

def exponentDigits (positive : Bool) (significand : Nat) (start : Int) (up : Bool) :
    Nat → Nat → Reader Float
  | 0, _ => failHere .badNumber
  | fuel + 1, e => do
    match ← peekDigit? with
    | some d => do
      skip
      if largestExponent < e * 10 + d then hugeExponent positive (significand == 0) up
      else exponentDigits positive significand start up fuel (e * 10 + d)
    | none => real positive significand (if up then start + Int.ofNat e else start - Int.ofNat e)

/-- What follows the letter of the exponent, which comes next. -/
def exponentPart (positive : Bool) (significand : Nat) (start : Int) : Reader Float := do
  skip
  let up ← do
    match ← peek? with
    | some '+' => do
      skip
      pure true
    | some '-' => do
      skip
      pure false
    | _ => pure true
  match ← peek? with
  | none => failHere .endInValue
  | some c =>
    if c.isDigit then do
      skip
      exponentDigits positive significand start up ((← remaining) + 1) (c.toNat - 48)
    else failNext .badNumber

/-- Ends a number that is no whole one. -/
def finishReal (positive : Bool) (significand : Nat) (exponent : Int) : Reader Float := do
  match ← peek? with
  | some 'e' | some 'E' => exponentPart positive significand exponent
  | _ => real positive significand exponent

def fractionDigits (positive : Bool) (before : Int) : Nat → Nat → Nat → Reader Float
  | 0, _, _ => failHere .badNumber
  | fuel + 1, significand, places => do
    match ← peekDigit? with
    | some d =>
      if largest64 < significand * 10 + d then do
        let _ ← skipDigits (← remaining) 0
        finishReal positive significand (before - Int.ofNat places)
      else do
        skip
        fractionDigits positive before fuel (significand * 10 + d) (places + 1)
    | none =>
      if places = 0 then do
        match ← peek? with
        | some _ => failNext .badNumber
        | none => failNext .endInValue
      else finishReal positive significand (before - Int.ofNat places)

/-- What follows the point, which comes next. -/
def fraction (positive : Bool) (significand : Nat) (before : Int) : Reader Float := do
  skip
  fractionDigits positive before ((← remaining) + 1) significand 0

/-- Whole digits beyond 64 bits. -/
def longWhole (positive : Bool) (significand : Nat) : Reader Number := do
  let dropped ← skipDigits (← remaining) 0
  match ← peek? with
  | some '.' => return .real (← fraction positive significand (Int.ofNat dropped))
  | _ => return .real (← finishReal positive significand (Int.ofNat dropped))

/-- Ends a number whose whole digits fit 64 bits. -/
def finishWhole (positive : Bool) (significand : Nat) : Reader Number := do
  match ← peek? with
  | some '.' => return .real (← fraction positive significand 0)
  | some 'e' | some 'E' => return .real (← exponentPart positive significand 0)
  | _ =>
    if positive then return .natural significand
    else if significand = 0 ∨ deepestNegative < significand then
      return .real (-significand.toUInt64.toFloat)
    else return .negative (-Int.ofNat significand)

def wholeDigits (positive : Bool) : Nat → Nat → Reader Number
  | 0, significand => finishWhole positive significand
  | fuel + 1, significand => do
    match ← peekDigit? with
    | some d =>
      if largest64 < significand * 10 + d then longWhole positive significand
      else do
        skip
        wholeDigits positive fuel (significand * 10 + d)
    | none => finishWhole positive significand

def unsigned (positive : Bool) : Reader Number := do
  match ← peek? with
  | none => failHere .endInValue
  | some '0' => do
    skip
    match ← peekDigit? with
    | some _ => failNext .badNumber
    | none => finishWhole positive 0
  | some c =>
    if c.isDigit then do
      skip
      wholeDigits positive (← remaining) (c.toNat - 48)
    else failNext .badNumber

def number : Reader Number := do
  match ← peek? with
  | some '-' => do
    skip
    unsigned false
  | _ => unsigned true

end FilterDispatch.Json.Reader
