/-! Values of the JSON data format. -/

namespace FilterDispatch

namespace Json

/-- Whole numbers that fit 64 bits are kept exactly, all others as doubles. -/
inductive Number
  | natural (n : Nat)
  | negative (i : Int)
  | real (x : Float)

end Json

inductive Json
  | null
  | bool (b : Bool)
  | number (n : Json.Number)
  | text (s : String)
  | array (items : List Json)
  | object (fields : List (String × Json))

namespace Json

def nat (n : Nat) : Json :=
  .number (.natural n)

def textOrNull : Option String → Json
  | some s => .text s
  | none => .null

def texts (items : List String) : Json :=
  .array (items.map .text)

/-- The first field of that name. -/
def field? (j : Json) (name : String) : Option Json :=
  match j with
  | .object fields => fields.lookup name
  | _ => none

end Json

end FilterDispatch
