import FilterDispatch.Decimal.Text
import FilterDispatch.Text.Numeral
import FilterDispatch.Text.Quoted

/-! What can be wrong with a JSON text, and where. -/

namespace FilterDispatch.Json

/-- A line counted from one and the bytes of it that were read. -/
structure Place where
  line : Nat
  column : Nat
  deriving DecidableEq, Repr

/-- What stood where something else was wanted. -/
inductive Found
  | null
  | bool (b : Bool)
  | natural (n : Nat)
  | negative (i : Int)
  | real (x : Float)
  | text (s : String)
  | sequence
  | map

inductive Cause
  | endInValue | endInText | endInList | endInObject
  | wantsColon | wantsCommaInList | wantsCommaInObject | wantsWord | wantsValue
  | badEscape | badNumber | numberTooLarge | controlCharacter | loneSurrogate | endOfSurrogatePair
  | keyNotText | trailingComma | trailingText | tooDeep
  | wrongType (found : Found) (wanted : String)
  | wrongValue (found : Found) (wanted : String)
  | wrongLength (length : Nat) (wanted : String)
  | missingField (name : String)
  | duplicateField (name : String)
  | unknownField (name : String) (known : List String)
  | unknownVariant (name : String) (known : List String)

structure Fault where
  cause : Cause
  place : Option Place

def Found.description : Found → String
  | .null => "null"
  | .bool true => "boolean `true`"
  | .bool false => "boolean `false`"
  | .natural n => "integer `" ++ Text.natText n ++ "`"
  | .negative i => "integer `" ++ Text.intText i ++ "`"
  | .real x => "floating point `" ++ Decimal.floatText x ++ "`"
  | .text s => "string " ++ Text.quoted s
  | .sequence => "sequence"
  | .map => "map"

def ticked (name : String) : String :=
  "`" ++ name ++ "`"

def alternatives : List String → String
  | [] => ""
  | [a] => ticked a
  | [a, b] => ticked a ++ " or " ++ ticked b
  | names => "one of " ++ ", ".intercalate (names.map ticked)

def Cause.message : Cause → String
  | .endInValue => "EOF while parsing a value"
  | .endInText => "EOF while parsing a string"
  | .endInList => "EOF while parsing a list"
  | .endInObject => "EOF while parsing an object"
  | .wantsColon => "expected `:`"
  | .wantsCommaInList => "expected `,` or `]`"
  | .wantsCommaInObject => "expected `,` or `\x7d`"
  | .wantsWord => "expected ident"
  | .wantsValue => "expected value"
  | .badEscape => "invalid escape"
  | .badNumber => "invalid number"
  | .numberTooLarge => "number out of range"
  | .controlCharacter => "control character (\\u0000-\\u001F) found while parsing a string"
  | .loneSurrogate => "lone leading surrogate in hex escape"
  | .endOfSurrogatePair => "unexpected end of hex escape"
  | .keyNotText => "key must be a string"
  | .trailingComma => "trailing comma"
  | .trailingText => "trailing characters"
  | .tooDeep => "recursion limit exceeded"
  | .wrongType found wanted => "invalid type: " ++ found.description ++ ", expected " ++ wanted
  | .wrongValue found wanted => "invalid value: " ++ found.description ++ ", expected " ++ wanted
  | .wrongLength length wanted =>
    "invalid length " ++ Text.natText length ++ ", expected " ++ wanted
  | .missingField name => "missing field `" ++ name ++ "`"
  | .duplicateField name => "duplicate field `" ++ name ++ "`"
  | .unknownField name known =>
    "unknown field `" ++ name ++ "`, expected " ++ alternatives known
  | .unknownVariant name known =>
    "unknown variant `" ++ name ++ "`, expected " ++ alternatives known

def Fault.message (f : Fault) : String :=
  match f.place with
  | none => f.cause.message
  | some p =>
    f.cause.message ++ " at line " ++ Text.natText p.line ++ " column " ++ Text.natText p.column

end FilterDispatch.Json
