import FilterDispatch.Rehearsal.Cast
import FilterDispatch.Rehearsal.Gate

/-! A dispatcher played step by step against a cast, its evaluations stopped at the gate. -/

namespace FilterDispatch.Rehearsal

structure DispatcherPlay where
  engine : Engine
  dispatcher : Dispatcher Cast
  gate : Gate := {}

inductive DispatcherStep
  | op (o : Dispatcher.Op Cast)
  | host (a : HostAction)
  | addObserver (name : String)
  | removeObserver (name : String)
  | release (run : Nat)
  | drain
  /-- A step that is not understood changes nothing. -/
  | refused

inductive StepOutcome
  | response (r : Dispatcher.Response)
  | panicked (p : Panic)
  | host (h : HostOutcome)
  | noObserver
  | released (b : Bool)
  | nothing

structure StepRecord where
  outcome : StepOutcome
  effects : List Effect
  work : List WorkEvent
  inFlight : Nat

namespace DispatcherPlay

def start (maxConcurrent : Nat) (cast : Cast) : Except Panic DispatcherPlay :=
  match Dispatcher.new maxConcurrent cast with
  | .ok dispatcher => .ok { engine := engineOf cast.rules, dispatcher }
  | .error p => .error p

def cast (p : DispatcherPlay) : Cast :=
  p.dispatcher.stage.host

def withJobs (p : DispatcherPlay) (g : Gate) (q : Jobs) : DispatcherPlay :=
  { p with gate := g, dispatcher := { p.dispatcher with queue := q } }

def startAll (p : DispatcherPlay) : List WorkEvent × DispatcherPlay :=
  let (events, g, q) := p.gate.startAll p.engine p.dispatcher.queue
  (events, p.withJobs g q)

def release (run : Nat) (p : DispatcherPlay) : Bool × List WorkEvent × DispatcherPlay :=
  match p.gate.release? p.engine run p.dispatcher.queue with
  | none => (false, [], p)
  | some (events, g, q) =>
    let (more, p) := (p.withJobs g q).startAll
    (true, events ++ more, p)

/-- Releases the lowest run, so often at most. -/
def releaseAll : Nat → DispatcherPlay → List WorkEvent × DispatcherPlay
  | 0, p => ([], p)
  | n + 1, p =>
    match p.gate.held with
    | [] => ([], p)
    | h :: _ =>
      let (_, events, p) := p.release h.run
      let (more, p) := releaseAll n p
      (events ++ more, p)

def perform (o : Dispatcher.Op Cast) (p : DispatcherPlay) : StepOutcome × DispatcherPlay :=
  match Dispatcher.step p.engine o p.dispatcher with
  | (.ok r, dispatcher) => (.response r, { p with dispatcher })
  | (.error panic, dispatcher) => (.panicked panic, { p with dispatcher })

def actOnHost (a : HostAction) (p : DispatcherPlay) : StepOutcome × DispatcherPlay :=
  match Cast.act a p.cast with
  | .ok h c => (.host h, { p with dispatcher := p.dispatcher.changeHost fun _ => c })
  | .error panic c =>
    (.panicked panic, { p with dispatcher := p.dispatcher.changeHost fun _ => c })

def act (s : DispatcherStep) (p : DispatcherPlay) :
    StepOutcome × List WorkEvent × DispatcherPlay :=
  match s with
  | .op o =>
    let (outcome, p) := p.perform o
    (outcome, p.startAll)
  | .host a =>
    let (outcome, p) := p.actOnHost a
    (outcome, [], p)
  | .addObserver name =>
    match p.cast.observer? name with
    | none => (.noObserver, [], p)
    | some o =>
      let (outcome, p) := p.perform (.addObserver o)
      (outcome, [], p)
  | .removeObserver name =>
    match p.cast.observer? name with
    | none => (.noObserver, [], p)
    | some o =>
      let (outcome, p) := p.perform (.removeObserver o)
      (outcome, [], p)
  | .release run =>
    let (released, events, p) := p.release run
    (.released released, events, p)
  | .drain =>
    let (events, p) := p.releaseAll p.dispatcher.inFlight
    let (outcome, p) := p.perform .untilIdle
    (outcome, events, p)
  | .refused => (.nothing, [], p)

def step (s : DispatcherStep) (p : DispatcherPlay) : StepRecord × DispatcherPlay :=
  let seen := p.dispatcher.stage.journal.length
  let (outcome, work, p) := p.act s
  let effects := p.dispatcher.stage.effects.drop seen
  ({ outcome, effects, work, inFlight := p.dispatcher.inFlight }, p)

def playAll : List DispatcherStep → DispatcherPlay → List StepRecord × DispatcherPlay
  | [], p => ([], p)
  | s :: rest, p =>
    let (r, p) := p.step s
    let (rs, p) := playAll rest p
    (r :: rs, p)

end DispatcherPlay

end FilterDispatch.Rehearsal
