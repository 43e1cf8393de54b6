import FilterDispatch.Decimal.Text
import FilterDispatch.Json.Basic
import FilterDispatch.Text.Hex

/-! JSON on one line without blanks, the fields of an object in the order of their names. -/

namespace FilterDispatch.Json

def escapeChar (c : Char) : List Char :=
  match c with
  | '"' => ['\\', '"']
  | '\\' => ['\\', '\\']
  | '\n' => ['\\', 'n']
  | '\r' => ['\\', 'r']
  | '\t' => ['\\', 't']
  | '\x08' => ['\\', 'b']
  | '\x0c' => ['\\', 'f']
  | c => if c.toNat < 0x20 then '\\' :: 'u' :: Text.hexFixed 4 c.toNat else [c]

def quote (s : String) : String :=
  String.ofList ('"' :: (s.toList.flatMap escapeChar ++ ['"']))

def Number.text : Number → String
  | .natural n => Text.natText n
  | .negative i => Text.intText i
  | .real x => Decimal.floatText x

def commaSeparated (parts : List String) : String :=
  ",".intercalate parts

def byName (fields : List (String × String)) : List (String × String) :=
  fields.mergeSort fun a b => a.1 ≤ b.1

mutual

def compact : Json → String
  | .null => "null"
  | .bool true => "true"
  | .bool false => "false"
  | .number n => n.text
  | .text s => quote s
  | .array items => "[" ++ commaSeparated (compactItems items) ++ "]"
  | .object fields =>
    "\x7b" ++ commaSeparated ((byName (compactFields fields)).map fun f => quote f.1 ++ ":" ++ f.2)
      ++ "\x7d"

def compactItems : List Json → List String
  | [] => []
  | j :: rest => compact j :: compactItems rest

def compactFields : List (String × Json) → List (String × String)
  | [] => []
  | (name, j) :: rest => (name, compact j) :: compactFields rest

end

end FilterDispatch.Json
