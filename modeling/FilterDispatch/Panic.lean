/-! Work that may end in a panic; what it did before is kept. -/

namespace FilterDispatch

/-- A panic with a message, or with a value that is no text. -/
inductive Panic
  | message (text : String)
  | value
  deriving DecidableEq, Repr

def Panic.text : Panic → String
  | .message text => text
  | .value => "unknown panic payload"

/-- Steps on the control sequence over a state. -/
abbrev Control (σ : Type) := EStateM Panic σ

end FilterDispatch
