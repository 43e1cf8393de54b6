import FilterDispatch.Url

/-! What a filter engine says of a resource, and what its caller is told. -/

namespace FilterDispatch

inductive Decision
  | allowed | blocked | ignored
  deriving DecidableEq, Repr

inductive MatchResult
  | noRule | allowRule | blockRule
  deriving DecidableEq, Repr

/-- A decision and the subscription whose filter made it. -/
inductive Classification
  | ignored
  | allowed (subscription : Url)
  | blocked (subscription : Url)
  deriving DecidableEq, Repr

def Decision.text : Decision → String
  | .allowed => "allowed"
  | .blocked => "blocked"
  | .ignored => "ignored"

def Decision.result : Decision → MatchResult
  | .ignored => .noRule
  | .allowed => .allowRule
  | .blocked => .blockRule

namespace MatchResult

def text : MatchResult → String
  | .noRule => "no_rule"
  | .allowRule => "allow_rule"
  | .blockRule => "block_rule"

def isMatch (r : MatchResult) : Bool :=
  r ≠ .noRule

end MatchResult

namespace Classification

def decision : Classification → Decision
  | .ignored => .ignored
  | .allowed _ => .allowed
  | .blocked _ => .blocked

def subscription? : Classification → Option Url
  | .ignored => none
  | .allowed s | .blocked s => some s

def result (c : Classification) : MatchResult :=
  c.decision.result

theorem subscription?_eq_none_iff {c : Classification} : c.subscription? = none ↔ c = .ignored := by
  cases c <;> simp [subscription?]

theorem result_eq_noRule_iff {c : Classification} : c.result = .noRule ↔ c = .ignored := by
  cases c <;> simp [result, decision, Decision.result]

end Classification

end FilterDispatch
