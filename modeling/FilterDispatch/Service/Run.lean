import FilterDispatch.Service.Basic

/-! Runs of a service: clients, the loop and the workers move in any order. -/

namespace FilterDispatch.Service

inductive Move (σ : Type)
  | send (call : CallId) (command : Command)
  | abandon (call : CallId)
  | cloneHandle
  | dropHandle
  | enqueue
  | takeCommand
  | takeOutcome
  | hangUp
  | start (id : JobId)
  | finish (id : JobId)
  | changeHost (change : σ → σ)

variable {σ : Type} [Host σ]

/-- Workers go on also after the loop has ended; their outcomes are then never taken. -/
def start? (id : JobId) (s : Service σ) : Option (Service σ) :=
  match s.dispatcher.queue.start? id with
  | some queue => some { s with dispatcher := { s.dispatcher with queue } }
  | none => none

def finish? (engine : Engine) (id : JobId) (s : Service σ) : Option (Service σ) :=
  match s.dispatcher.queue.finish? (Job.run engine) id with
  | some queue => some { s with dispatcher := { s.dispatcher with queue } }
  | none => none

/-- A call has an id that no earlier one had; sending needs a handle. -/
def step? (engine : Engine) : Move σ → Service σ → Option (Service σ)
  | .send call command, s =>
    if s.calls.contains call || s.handles = 0 then none else some (s.send call command)
  | .abandon call, s => if s.isOpen call && s.calls.contains call then some (s.abandon call) else none
  | .cloneHandle, s => if s.handles = 0 then none else some s.cloneHandle
  | .dropHandle, s => if s.handles = 0 then none else some s.dropHandle
  | .enqueue, s => s.enqueue?
  | .takeCommand, s => s.takeCommand?
  | .takeOutcome, s => s.takeOutcome?
  | .hangUp, s => s.hangUp?
  | .start id, s => s.start? id
  | .finish id, s => s.finish? engine id
  | .changeHost change, s => some (s.changeHost change)

def run? (engine : Engine) : List (Move σ) → Service σ → Option (Service σ)
  | [], s => some s
  | m :: rest, s =>
    match s.step? engine m with
    | some t => run? engine rest t
    | none => none

end FilterDispatch.Service
