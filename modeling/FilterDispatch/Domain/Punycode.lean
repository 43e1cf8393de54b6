import FilterDispatch.Text.Numeral

/-!
Labels in ASCII letters, digits and dashes.  The ASCII characters of a label come first, then a
dash, then one number for each of the others: how far it is to the next insertion, counted over
all places of all code points.
-/

namespace FilterDispatch.Domain.Punycode

def base : Nat := 36
def smallest : Nat := 1
def largest : Nat := 26
def skew : Nat := 38
def firstDamp : Nat := 700
def firstBias : Nat := 72
/-- The first code point that is not ASCII. -/
def firstCode : Nat := 128
/-- Numbers stay below this. -/
def bound : Nat := 4294967296

/-- At which digit a number may end, by the place of the digit. -/
def threshold (place bias : Nat) : Nat :=
  max smallest (min largest (place - bias))

theorem threshold_pos (place bias : Nat) : 0 < threshold place bias := by
  simp only [threshold, smallest]
  omega

def scaleDown (delta : Nat) : Nat × Nat :=
  if (base - smallest) * largest / 2 < delta then
    let (rest, places) := scaleDown (delta / (base - smallest))
    (rest, places + base)
  else (delta, 0)
termination_by delta
decreasing_by simp_all [base, smallest, largest]; omega

/-- The bias after a number, so that the next one of its size takes few digits. -/
def adapted (delta points : Nat) (isFirst : Bool) : Nat :=
  let damped := if isFirst then delta / firstDamp else delta / 2
  let (rest, places) := scaleDown (damped + damped / points)
  places + (base - smallest + 1) * rest / (rest + skew)

/-- Letters stand for the first 26 values, digits for the others. -/
def digit (n : Nat) : Char :=
  if n < 26 then Char.ofNat (97 + n) else Char.ofNat (22 + n)

def digitValue? (c : Char) : Option Nat :=
  if 'a' ≤ c ∧ c ≤ 'z' then some (c.toNat - 97)
  else if c.isDigit then some (c.toNat - 22)
  else none

/-- The digits of a number, the least significant first; a digit below its threshold ends it. -/
def number (bias place n : Nat) : List Char :=
  let t := threshold place bias
  if n < t then [digit n]
  else digit (t + (n - t) % (base - t)) :: number bias (place + base) ((n - t) / (base - t))
termination_by n
decreasing_by
  have ht := threshold_pos place bias
  exact Nat.lt_of_le_of_lt (Nat.div_le_self _ _) (by omega)

structure Writing where
  delta : Nat := 0
  bias : Nat := firstBias
  written : Nat
  out : List Char

/-- One pass over the label for one code point: each smaller character counts, each equal one is
written. -/
def writeCode (basic code : Nat) : List Char → Writing → Writing
  | [], w => w
  | c :: rest, w =>
    if c.toNat < code then writeCode basic code rest { w with delta := w.delta + 1 }
    else if c.toNat = code then
      writeCode basic code rest
        { delta := 0
          bias := adapted w.delta (w.written + 1) (w.written = basic)
          written := w.written + 1
          out := w.out ++ number w.bias base w.delta }
    else writeCode basic code rest w

def writeCodes (label : List Char) (basic : Nat) : List Nat → Nat → Writing → Writing
  | [], _, w => w
  | code :: rest, next, w =>
    let w := { w with delta := w.delta + (code - next) * (w.written + 1) }
    let w := writeCode basic code label w
    writeCodes label basic rest (code + 1) { w with delta := w.delta + 1 }

def isBasic (c : Char) : Bool :=
  c.toNat < firstCode

/-- The code points that are not ASCII, ascending and each once. -/
def otherCodes (label : List Char) : List Nat :=
  (((label.filter fun c => !isBasic c).map Char.toNat).mergeSort (· ≤ ·)).eraseDups

def encode (label : List Char) : List Char :=
  let plain := label.filter isBasic
  let out := if plain.isEmpty then [] else plain ++ ['-']
  (writeCodes label plain.length (otherCodes label) firstCode { written := plain.length, out }).out

def readNumber (bias place weight value : Nat) : List Char → Option (Nat × List Char)
  | [] => none
  | c :: rest =>
    match digitValue? c with
    | none => none
    | some d =>
      let value := value + d * weight
      let t := threshold place bias
      if bound ≤ value then none
      else if d < t then some (value, rest)
      else if bound ≤ weight * (base - t) then none
      else readNumber bias (place + base) (weight * (base - t)) value rest

def codeChar? (n : Nat) : Option Char :=
  if n.isValidChar then some (Char.ofNat n) else none

/-- Inserts one character after the other, so many at most. -/
def readCodes : Nat → Nat → Nat → Nat → List Char → List Char → Option (List Char)
  | _, _, _, _, [], label => some label
  | 0, _, _, _, _ :: _, _ => none
  | fuel + 1, code, index, bias, digits, label =>
    match readNumber bias base 1 index digits with
    | none => none
    | some (value, rest) =>
      let places := label.length + 1
      let code := code + value / places
      match codeChar? code with
      | none => none
      | some c =>
        let i := value % places
        let bias := adapted (value - index) places (index = 0)
        readCodes fuel code (i + 1) bias rest (label.take i ++ c :: label.drop i)

/-- Cuts at the last dash, unless the text starts with it. -/
def cut (s : List Char) : List Char × List Char :=
  match s.reverse.dropWhile (· ≠ '-') with
  | [] => ([], s)
  | [_] => ([], s)
  | _ :: before => (before.reverse, (s.reverse.takeWhile (· ≠ '-')).reverse)

def decode (s : List Char) : Option (List Char) :=
  let (plain, digits) := cut s
  if plain.all isBasic then readCodes digits.length firstCode 0 firstBias digits plain else none

end FilterDispatch.Domain.Punycode
