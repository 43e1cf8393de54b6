import FilterDispatch.Dispatcher.Basic

/-! The host of a service: callbacks put the answer of a call on the desk, where its caller looks. -/

namespace FilterDispatch

inductive Reply
  | answer (a : Answer)
  | done
  deriving DecidableEq, Repr

/-- The replies given so far, the newest first. -/
structure Desk (σ : Type) where
  host : σ
  replies : List (CallId × Reply) := []

namespace Desk

variable {σ : Type}

def put (call : CallId) (r : Reply) (d : Desk σ) : Desk σ :=
  { d with replies := (call, r) :: d.replies }

def reply? (d : Desk σ) (call : CallId) : Option Reply :=
  d.replies.lookup call

def ofHost {α : Type} (m : Control σ α) : Control (Desk σ) α := fun d =>
  match m d.host with
  | .ok a h => .ok a { d with host := h }
  | .error p h => .error p { d with host := h }

instance [Host σ] : Host (Desk σ) where
  resolve frame := ofHost (Host.resolve frame)
  ancestorChain frame := ofHost (Host.ancestorChain frame)
  findSiteKey urls := ofHost (Host.findSiteKey urls)
  classifyInline call := ofHost (Host.classifyInline call)
  receive call a := modify (put call (.answer a))
  observe o n := ofHost (Host.observe o n)
  owned d := Host.owned d.host

end Desk

end FilterDispatch
