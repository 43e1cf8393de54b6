import FilterDispatch.Json.Fault

/-!
Reading a JSON text from left to right.  A reader keeps the place it has come to also when it
fails, because a fault found in a value gets the place up to which the text was read.
-/

namespace FilterDispatch.Json

structure Cursor where
  rest : List Char
  place : Place := ⟨1, 0⟩

abbrev Reader := EStateM Fault Cursor

def Cursor.ofText (s : String) : Cursor :=
  { rest := s.toList }

/-- Columns count bytes. -/
def Place.after (p : Place) (c : Char) : Place :=
  if c = '\n' then ⟨p.line + 1, 0⟩ else ⟨p.line, p.column + c.utf8Size⟩

/-- The place one byte further on, even inside a character. -/
def Cursor.nextPlace (s : Cursor) : Place :=
  match s.rest with
  | [] => s.place
  | '\n' :: _ => ⟨s.place.line + 1, 0⟩
  | _ :: _ => ⟨s.place.line, s.place.column + 1⟩

/-- The place so many bytes further on; nothing if the text ends before. -/
def placeAfterBytes : Nat → List Char → Place → Option Place
  | 0, _, p => some p
  | _ + 1, [], _ => none
  | n + 1, c :: rest, p =>
    if c.utf8Size ≤ n + 1 then
      placeAfterBytes (n + 1 - c.utf8Size) rest (p.after c)
    else some ⟨p.line, p.column + n + 1⟩
termination_by _ rest _ => rest.length

namespace Reader

def peek? : Reader (Option Char) := do
  return (← get).rest.head?

def skip : Reader Unit :=
  modify fun s =>
    match s.rest with
    | [] => s
    | c :: rest => ⟨rest, s.place.after c⟩

/-- A fault at the place that was reached. -/
def failHere {α : Type} (cause : Cause) : Reader α := do
  throw ⟨cause, some (← get).place⟩

/-- A fault at the next byte. -/
def failNext {α : Type} (cause : Cause) : Reader α := do
  throw ⟨cause, some (← get).nextPlace⟩

/-- A fault whose place is given by whoever reads the value around it. -/
def failWithin {α : Type} (cause : Cause) : Reader α :=
  throw ⟨cause, none⟩

def Fault.placedAt (f : Fault) (p : Place) : Fault :=
  match f.place with
  | none => ⟨f.cause, some p⟩
  | some _ => f

/-- Gives a fault without a place the one that was reached. -/
def placed {α : Type} (read : Reader α) : Reader α := fun s =>
  match read s with
  | .ok a t => .ok a t
  | .error f t => .error (Fault.placedAt f t.place) t

/-- Reads what stands between brackets and then the closing one.  The closing one is looked for
also after a fault inside, whose place then is behind it. -/
def bracketed {α : Type} (inside : Reader α) (close : Reader Unit) : Reader α := fun s =>
  match inside s with
  | .ok a t =>
    match close t with
    | .ok _ u => .ok a u
    | .error f u => .error f u
  | .error f t =>
    match close t with
    | .ok _ u => .error f u
    | .error _ u => .error f u

def isSpace (c : Char) : Bool :=
  c == ' ' || c == '\n' || c == '\t' || c == '\r'

def skipSpaces : List Char → Place → Cursor
  | [], p => ⟨[], p⟩
  | c :: rest, p => if isSpace c then skipSpaces rest (p.after c) else ⟨c :: rest, p⟩

/-- Passes white space and looks at what follows. -/
def token? : Reader (Option Char) := do
  modify fun s => skipSpaces s.rest s.place
  peek?

/-- The first character of a value. -/
def valueStart : Reader Char := do
  match ← token? with
  | some c => return c
  | none => failNext .endInValue

/-- The rest of a word such as `null`. -/
def word : List Char → Reader Unit
  | [] => return ()
  | wanted :: more => do
    match ← peek? with
    | none => failHere .endInValue
    | some c =>
      if c = wanted then do
        skip
        word more
      else failNext .wantsWord

def hexQuad : List Char → Option Nat
  | [a, b, c, d] => do
    let a ← Text.hexValue? a
    let b ← Text.hexValue? b
    let c ← Text.hexValue? c
    let d ← Text.hexValue? d
    return ((a * 16 + b) * 16 + c) * 16 + d
  | _ => none

def hexEscape : Reader Nat := do
  let s ← get
  match placeAfterBytes 4 s.rest s.place with
  | none =>
    set (⟨[], s.rest.foldl Place.after s.place⟩ : Cursor)
    failHere .endInText
  | some p =>
    match hexQuad (s.rest.take 4) with
    | some n =>
      set (⟨s.rest.drop 4, p⟩ : Cursor)
      return n
    | none => throw ⟨.badEscape, some p⟩

def textChar : Reader Char := do
  match ← peek? with
  | some c => return c
  | none => failHere .endInText

def secondHalf (first : Nat) : Reader Char := do
  if (← textChar) ≠ '\\' then failNext .endOfSurrogatePair
  skip
  if (← textChar) ≠ 'u' then failNext .endOfSurrogatePair
  skip
  let second ← hexEscape
  if 0xDC00 ≤ second ∧ second ≤ 0xDFFF then
    return Char.ofNat ((first - 0xD800) * 1024 + (second - 0xDC00) + 0x10000)
  else failHere .loneSurrogate

def unicodeEscape : Reader Char := do
  let n ← hexEscape
  if 0xDC00 ≤ n ∧ n ≤ 0xDFFF then failHere .loneSurrogate
  else if 0xD800 ≤ n ∧ n ≤ 0xDBFF then secondHalf n
  else return Char.ofNat n

def escape : Reader Char := do
  match ← textChar with
  | '"' => skip; return '"'
  | '\\' => skip; return '\\'
  | '/' => skip; return '/'
  | 'b' => skip; return '\x08'
  | 'f' => skip; return '\x0c'
  | 'n' => skip; return '\n'
  | 'r' => skip; return '\r'
  | 't' => skip; return '\t'
  | 'u' => skip; unicodeEscape
  | _ => failNext .badEscape

/-- The characters up to the closing quote, which is passed too; the newest come first. -/
def textTail : Nat → List Char → Reader String
  | 0, _ => failHere .endInText
  | fuel + 1, done => do
    match ← textChar with
    | '"' => do
      skip
      return String.ofList done.reverse
    | '\\' => do
      skip
      let c ← escape
      textTail fuel (c :: done)
    | c =>
      if c.toNat < 0x20 then failNext .controlCharacter
      else do
        skip
        textTail fuel (c :: done)

/-- A text whose opening quote comes next. -/
def text : Reader String := do
  skip
  textTail ((← get).rest.length + 1) []

end Reader

end FilterDispatch.Json
