import FilterDispatch.Engine
import FilterDispatch.Text.Substring

/-! Engines and collections whose answers are written down beforehand. -/

namespace FilterDispatch.Rehearsal

inductive Occasion
  | request | response | popup
  deriving DecidableEq, Repr

inductive RuleAnswer
  | classified (c : Classification)
  | panics
  deriving DecidableEq, Repr

/-- A rule matches if all its conditions do; popups have no content type. -/
structure Rule where
  part : Option String := none
  occasions : List Occasion := [.request, .response, .popup]
  contentType : Option ContentType := none
  answer : RuleAnswer
  deriving DecidableEq, Repr

def occasion : EngineCall → Occasion
  | .request .. => .request
  | .response .. => .response
  | .popup .. => .popup

def contentType? : EngineCall → Option ContentType
  | .request _ _ _ c _ | .response _ _ _ c _ => some c
  | .popup .. => none

def Rule.matchesCall (r : Rule) (call : EngineCall) : Bool :=
  (match r.part with
    | none => true
    | some part => Text.occursIn part call.url.text) &&
  r.occasions.contains (occasion call) &&
  (match r.contentType with
    | none => true
    | some c => contentType? call == some c)

/-- The first rule that matches answers. -/
def classifyBy (rules : List Rule) (call : EngineCall) : Except Panic Classification :=
  match rules.find? (·.matchesCall call) with
  | none => .ok .ignored
  | some r =>
    match r.answer with
    | .classified c => .ok c
    | .panics => .error (.message "engine failure")

def engineOf (rules : List Rule) : Engine :=
  ⟨classifyBy rules⟩

/-- The fixed answers of a collection; a panic goes before them. -/
structure FixedAnswers where
  rewrite : Option Url := none
  document : Option Url := none
  panic : Option String := none
  deriving DecidableEq, Repr

def FixedAnswers.answer (a : FixedAnswers) (q : Query) : Except Panic (Option Url) :=
  match a.panic with
  | some text => .error (.message text)
  | none =>
    match q with
    | .rewrite .. => .ok a.rewrite
    | .special .document .. => .ok a.document
    | .special .. => .ok none

def snapshotOf (answers : List FixedAnswers) : Snapshot :=
  answers.mapIdx fun i a => { id := i, answer := a.answer }

end FilterDispatch.Rehearsal
