import FilterDispatch.Text.Blank
import FilterDispatch.Text.Numeral
import FilterDispatch.Url

/-! Frames of a browser: their ids, how ids are written and read, and frames that are alive. -/

namespace FilterDispatch

/-- The process that renders a frame and its routing number there. -/
structure FrameId where
  process : Int32
  routing : Int32
  deriving DecidableEq, Repr

namespace FrameId

def text (f : FrameId) : String :=
  String.ofList
    (Text.signedDigits f.process.toInt ++ ':' :: Text.signedDigits f.routing.toInt)

def readInt32 (s : List Char) : Option Int32 :=
  match Text.readInt (Text.strip s) with
  | some i => if -2147483648 ≤ i ∧ i ≤ 2147483647 then some (Int32.ofInt i) else none
  | none => none

/-- Cuts at the first colon. -/
def cut (s : List Char) : Option (List Char × List Char) :=
  match s.dropWhile (· ≠ ':') with
  | ':' :: rest => some (s.takeWhile (· ≠ ':'), rest)
  | _ => none

/-- Two signed 32-bit numbers with a colon between them and blanks around either. -/
def parse? (s : String) : Option FrameId :=
  match cut s.toList with
  | none => none
  | some (left, right) =>
    match readInt32 left, readInt32 right with
    | some process, some routing => some ⟨process, routing⟩
    | _, _ => none

/-- By process first and by routing number in one process. -/
def le (f g : FrameId) : Bool :=
  f.process.toInt < g.process.toInt ||
    (f.process.toInt == g.process.toInt && f.routing.toInt ≤ g.routing.toInt)

def sorted (ids : List FrameId) : List FrameId :=
  ids.mergeSort le

end FrameId

/-- A text that is no frame id. -/
structure BadFrameId where
  given : String
  deriving DecidableEq, Repr

def BadFrameId.message (e : BadFrameId) : String :=
  "Invalid frame id '" ++ e.given ++ "', expected <process>:<routing>"

def FrameId.parse (s : String) : Except BadFrameId FrameId :=
  match parse? s with
  | some f => .ok f
  | none => .error ⟨s⟩

structure LiveFrame where
  id : FrameId
  url : Url
  deriving DecidableEq, Repr

end FilterDispatch
