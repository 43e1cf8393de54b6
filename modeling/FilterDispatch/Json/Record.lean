import FilterDispatch.Json.Value

/-!
Values of a wanted type.  A record is written with the names of its fields or as the list of its
fields in order; a field may stand once, and one that is not known is a fault.  The same holds
for values that were read already, whose faults have no place yet.
-/

namespace FilterDispatch.Json.Reader

def textValue : Reader String := placed do
  if (← valueStart) = '"' then text else wrongType "a string"

def boolValue : Reader Bool := placed do
  match ← valueStart with
  | 't' => do
    skip
    word ['r', 'u', 'e']
    return true
  | 'f' => do
    skip
    word ['a', 'l', 's', 'e']
    return false
  | _ => wrongType "a boolean"

def naturalValue (wanted : String) : Reader Nat := placed do
  let c ← valueStart
  if c = '-' ∨ c.isDigit then
    match ← number with
    | .natural n => return n
    | .negative i => failWithin (.wrongValue (.negative i) wanted)
    | .real x => failWithin (.wrongType (.real x) wanted)
  else wrongType wanted

def listValue {α : Type} (item : Reader α) : Reader (List α) := placed do
  if (← valueStart) = '[' then do
    skip
    bracketed (items item) closeList
  else wrongType "a sequence"

def recordValue {α : Type} (wanted : String) (named listed : Reader α) : Reader α := placed do
  match ← valueStart with
  | '\x7b' => do
    skip
    bracketed named closeObject
  | '[' => do
    skip
    bracketed listed closeList
  | _ => wrongType wanted

/-- The value of a named field that was not given before. -/
def fieldOnce {α : Type} (name : String) (before : Option α) (read : Reader α) :
    Reader (Option α) := do
  match before with
  | some _ => failWithin (.duplicateField name)
  | none => do
    colon
    return some (← read)

def required {α : Type} (name : String) : Option α → Reader α
  | some a => return a
  | none => failWithin (.missingField name)

/-- The field at a position of a listed record, if the list is that long. -/
def listed? {α : Type} (position : Nat) (read : Reader α) : Reader (Option α) := do
  if ← itemFollows (position = 0) then return some (← read) else return none

def listed {α : Type} (position : Nat) (wanted : String) (read : Reader α) : Reader α := do
  match ← listed? position read with
  | some a => return a
  | none => failWithin (.wrongLength position wanted)

end FilterDispatch.Json.Reader

namespace FilterDispatch.Json

def asFound : Json → Found
  | .null => .null
  | .bool b => .bool b
  | .number (.natural n) => .natural n
  | .number (.negative i) => .negative i
  | .number (.real x) => .real x
  | .text s => .text s
  | .array _ => .sequence
  | .object _ => .map

def asText : Json → Except Cause String
  | .text s => .ok s
  | j => .error (.wrongType j.asFound "a string")

def asList {α : Type} (item : Json → Except Cause α) : Json → Except Cause (List α)
  | .array js => js.mapM item
  | j => .error (.wrongType j.asFound "a sequence")

/-- How the length of a list that is too long is put. -/
def countWanted (n : Nat) : String :=
  if n = 1 then "1 element in sequence" else Text.natText n ++ " elements in sequence"

def asPair {α β : Type} (left : Json → Except Cause α) (right : Json → Except Cause β) :
    Json → Except Cause (α × β)
  | .array js =>
    match js with
    | [] => .error (.wrongLength 0 "a tuple of size 2")
    | [a] =>
      match left a with
      | .error e => .error e
      | .ok _ => .error (.wrongLength 1 "a tuple of size 2")
    | a :: b :: rest => do
      let x ← left a
      let y ← right b
      if rest.isEmpty then return (x, y)
      else .error (.wrongLength (2 + rest.length) (countWanted 2))
  | j => .error (.wrongType j.asFound "a tuple of size 2")

end FilterDispatch.Json
