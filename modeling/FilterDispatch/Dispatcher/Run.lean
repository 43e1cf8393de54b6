import FilterDispatch.Dispatcher.Basic

/-! Runs of a dispatcher: any operations in any order, each of which may end in a panic. -/

namespace FilterDispatch.Dispatcher

inductive Op (σ : Type)
  | request (snapshot : Snapshot) (url : Url) (contentType : ContentType) (frame : FrameId)
      (callback : CallId)
  | socketUpgrade (snapshot : Snapshot) (url : Url) (frame : FrameId) (callback : CallId)
  | response (snapshot : Snapshot) (url : Url) (contentType : ContentType) (frame : FrameId)
      (headers : Headers) (callback : CallId)
  | document (snapshot : Snapshot) (url : Url) (frame : FrameId)
  | rewrite (snapshot : Snapshot) (url : Url) (frame : FrameId) (callback : CallId)
  | popup (snapshot : Snapshot) (url : Url) (frame : FrameId)
  | addObserver (o : ObserverId)
  | removeObserver (o : ObserverId)
  | changeHost (change : σ → σ)
  | start (id : JobId)
  | finish (id : JobId)
  | next
  | ready
  | untilIdle
  | complete (f : Finished JobOutput)

inductive Response
  | done
  | result (r : MatchResult)
  | progress (p : Progress)
  | delivered (count : Nat)
  deriving DecidableEq, Repr

variable {σ : Type}

/-- A job that cannot start stays where it is. -/
def start (id : JobId) (d : Dispatcher σ) : Dispatcher σ :=
  match d.queue.start? id with
  | some queue => { d with queue }
  | none => d

def finish (engine : Engine) (id : JobId) (d : Dispatcher σ) : Dispatcher σ :=
  match d.queue.finish? (Job.run engine) id with
  | some queue => { d with queue }
  | none => d

def changeHost (change : σ → σ) (d : Dispatcher σ) : Dispatcher σ :=
  { d with stage := { d.stage with host := change d.stage.host } }

variable [Host σ]

def perform (engine : Engine) : Op σ → Control (Dispatcher σ) Response
  | .request snapshot url contentType frame callback => do
    request snapshot url contentType frame callback
    return .done
  | .socketUpgrade snapshot url frame callback => do
    socketUpgrade snapshot url frame callback
    return .done
  | .response snapshot url contentType frame headers callback => do
    response snapshot url contentType frame headers callback
    return .done
  | .document snapshot url frame => do
    checkDocument snapshot url frame
    return .done
  | .rewrite snapshot url frame callback => do
    rewrite snapshot url frame callback
    return .done
  | .popup snapshot url frame => return .result (← popup snapshot url frame)
  | .addObserver o => do
    modify (addObserver o)
    return .done
  | .removeObserver o => do
    modify (removeObserver o)
    return .done
  | .changeHost change => do
    modify (changeHost change)
    return .done
  | .start id => do
    modify (start id)
    return .done
  | .finish id => do
    modify (finish engine id)
    return .done
  | .next => return .progress (← processNext)
  | .ready => return .delivered (← processReady)
  | .untilIdle => return .progress (← runUntilIdle)
  | .complete f => do
    complete f
    return .done

/-- After a panic the next operation finds the state as the panic left it. -/
def step (engine : Engine) (op : Op σ) (d : Dispatcher σ) : Except Panic Response × Dispatcher σ :=
  match perform engine op d with
  | .ok r e => (.ok r, e)
  | .error p e => (.error p, e)

def run (engine : Engine) :
    List (Op σ) → Dispatcher σ → List (Except Panic Response) × Dispatcher σ
  | [], d => ([], d)
  | op :: rest, d =>
    let (r, e) := step engine op d
    let (rs, f) := run engine rest e
    (r :: rs, f)

end FilterDispatch.Dispatcher
