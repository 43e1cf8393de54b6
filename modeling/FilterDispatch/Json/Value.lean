import FilterDispatch.Json.Number

/-! Lists and records of a JSON text, read piece by piece, and values of any shape. -/

namespace FilterDispatch.Json.Reader

/-- Whether an item follows; `first` says that none was read yet. -/
def itemFollows (first : Bool) : Reader Bool := do
  match ← token? with
  | none => failNext .endInList
  | some ']' => return false
  | some c =>
    if first then return true
    else if c = ',' then do
      skip
      match ← token? with
      | none => failNext .endInValue
      | some ']' => failNext .trailingComma
      | some _ => return true
    else failNext .wantsCommaInList

def closeList : Reader Unit := do
  match ← token? with
  | none => failNext .endInList
  | some ']' => skip
  | some ',' => do
    skip
    match ← token? with
    | some ']' => failNext .trailingComma
    | _ => failNext .trailingText
  | some _ => failNext .trailingText

/-- Whether a field follows; if one does, its name comes next. -/
def fieldFollows (first : Bool) : Reader Bool := do
  match ← token? with
  | none => failNext .endInObject
  | some '\x7d' => return false
  | some c =>
    if first then
      if c = '"' then return true else failNext .keyNotText
    else if c = ',' then do
      skip
      match ← token? with
      | none => failNext .endInValue
      | some '"' => return true
      | some '\x7d' => failNext .trailingComma
      | some _ => failNext .keyNotText
    else failNext .wantsCommaInObject

def closeObject : Reader Unit := do
  match ← token? with
  | none => failNext .endInObject
  | some '\x7d' => skip
  | some ',' => failNext .trailingComma
  | some _ => failNext .trailingText

def colon : Reader Unit := do
  match ← token? with
  | none => failNext .endInObject
  | some ':' => skip
  | some _ => failNext .wantsColon

/-- Reads items until none follows; the newest come first. -/
def itemsFrom {α : Type} (item : Reader α) : Nat → Bool → List α → Reader (List α)
  | 0, _, done => return done.reverse
  | fuel + 1, first, done => do
    if ← itemFollows first then itemsFrom item fuel false ((← item) :: done)
    else return done.reverse

def items {α : Type} (item : Reader α) : Reader (List α) := do
  itemsFrom item ((← remaining) + 1) true []

/-- Reads fields until none follows, each by what its name asks for. -/
def fieldsFrom {α : Type} (field : String → α → Reader α) : Nat → Bool → α → Reader α
  | 0, _, done => return done
  | fuel + 1, first, done => do
    if ← fieldFollows first then do
      let name ← text
      fieldsFrom field fuel false (← field name done)
    else return done

def fields {α : Type} (field : String → α → Reader α) (start : α) : Reader α := do
  fieldsFrom field ((← remaining) + 1) true start

/-- What stands here instead of what was wanted.  Words, numbers and texts are passed, brackets
are not. -/
def found : Reader Found := do
  match ← peek? with
  | some 'n' => do
    skip
    word ['u', 'l', 'l']
    return .null
  | some 't' => do
    skip
    word ['r', 'u', 'e']
    return .bool true
  | some 'f' => do
    skip
    word ['a', 'l', 's', 'e']
    return .bool false
  | some '"' => return .text (← text)
  | some '[' => return .sequence
  | some '\x7b' => return .map
  | some c =>
    if c = '-' ∨ c.isDigit then do
      match ← number with
      | .natural n => return .natural n
      | .negative i => return .negative i
      | .real x => return .real x
    else failNext .wantsValue
  | none => failNext .wantsValue

def wrongType {α : Type} (wanted : String) : Reader α := do
  failHere (.wrongType (← found) wanted)

/-- The greatest number of lists and records inside one another, plus one. -/
def depthLimit : Nat := 128

def scalar : Char → Reader Json
  | 'n' => do
    skip
    word ['u', 'l', 'l']
    return .null
  | 't' => do
    skip
    word ['r', 'u', 'e']
    return .bool true
  | 'f' => do
    skip
    word ['a', 'l', 's', 'e']
    return .bool false
  | '"' => return .text (← text)
  | c => do
    if c = '-' ∨ c.isDigit then return .number (← number) else failNext .wantsValue

/-- A value of any shape, the lists and records in it at most so deep. -/
def value : Nat → Reader Json
  | 0 => placed do
    match ← valueStart with
    | '[' | '\x7b' => failNext .tooDeep
    | c => scalar c
  | deeper + 1 => placed do
    match ← valueStart with
    | '[' => do
      skip
      bracketed (.array <$> items (value deeper)) closeList
    | '\x7b' => do
      skip
      let field (name : String) (done : List (String × Json)) : Reader (List (String × Json)) := do
        colon
        return (name, ← value deeper) :: done
      bracketed ((fun fs => .object fs.reverse) <$> fields field []) closeObject
    | c => scalar c

/-- Reads a whole text: nothing but white space follows the value. -/
def whole {α : Type} (read : Reader α) (s : String) : Except Fault α :=
  let reading : Reader α := do
    let a ← read
    match ← token? with
    | none => return a
    | some _ => failNext .trailingText
  match reading.run (Cursor.ofText s) with
  | .ok a _ => .ok a
  | .error f _ => .error f

end FilterDispatch.Json.Reader

namespace FilterDispatch.Json

def parse (s : String) : Except Fault Json :=
  Reader.whole (Reader.value (Reader.depthLimit - 1)) s

end FilterDispatch.Json
