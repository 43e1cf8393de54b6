import FilterDispatch.Rehearsal.Cast
import FilterDispatch.Rehearsal.Gate
import FilterDispatch.Service.Turn

/-!
A service played step by step: before the next step its loop takes all there is to take, and the
evaluations stop at the gate.  Callers look for their replies at the end of a step only, so until
then the service does not stop for want of callers.
-/

namespace FilterDispatch.Rehearsal

structure ServicePlay where
  engine : Engine
  service : Service Cast
  gate : Gate := {}
  /-- The calls whose callers still wait, in order. -/
  waiting : List CallId := []

inductive ServiceStep
  | send (call : CallId) (c : Command)
  | addObserver (call : CallId) (name : String)
  | removeObserver (call : CallId) (name : String)
  | host (a : HostAction)
  | release (run : Nat)
  | drain
  | dropHandle
  /-- A step that is not understood changes nothing. -/
  | refused (wantsHandle : Bool)

inductive ServiceOutcome
  | sent
  | completed (s : CallStatus)
  | host (h : HostOutcome)
  | panicked (p : Panic)
  | noHandle
  | noObserver
  | released (b : Bool)
  | dropped (b : Bool)
  | nothing

structure ServiceRecord where
  outcome : ServiceOutcome
  effects : List Effect
  work : List WorkEvent
  done : List (CallId × CallStatus)
  stopped : Bool

namespace ServicePlay

def start (maxConcurrent commandBuffer : Nat) (cast : Cast) : Except Panic ServicePlay :=
  match Service.spawn maxConcurrent commandBuffer cast with
  | .ok service => .ok { engine := engineOf cast.rules, service }
  | .error p => .error p

def hasHandle (p : ServicePlay) : Bool :=
  p.service.handles ≠ 0

def withJobs (p : ServicePlay) (g : Gate) (q : Jobs) : ServicePlay :=
  let dispatcher := { p.service.dispatcher with queue := q }
  { p with gate := g, service := { p.service with dispatcher } }

def startAll (p : ServicePlay) : List WorkEvent × ServicePlay :=
  let (events, g, q) := p.gate.startAll p.engine p.service.dispatcher.queue
  (events, p.withJobs g q)

def serveAll (p : ServicePlay) : ServicePlay :=
  { p with service := p.service.serveAll }

def settle (p : ServicePlay) : ServicePlay :=
  { p with service := p.service.settle }

/-- The loop, the workers and the loop again: outcomes post no jobs. -/
def keepUp (p : ServicePlay) : List WorkEvent × ServicePlay :=
  let (events, p) := p.serveAll.startAll
  (events, p.serveAll)

def release (run : Nat) (p : ServicePlay) : Bool × List WorkEvent × ServicePlay :=
  match p.gate.release? p.engine run p.service.dispatcher.queue with
  | none => (false, [], p)
  | some (events, g, q) =>
    let (more, p) := (p.withJobs g q).keepUp
    (true, events ++ more, p)

/-- Releases the lowest run, so often at most. -/
def releaseAll : Nat → ServicePlay → List WorkEvent × ServicePlay
  | 0, p => ([], p)
  | n + 1, p =>
    match p.gate.held with
    | [] => ([], p)
    | h :: _ =>
      let (_, events, p) := p.release h.run
      let (more, p) := releaseAll n p
      (events ++ more, p)

def send (call : CallId) (c : Command) (p : ServicePlay) :
    ServiceOutcome × List WorkEvent × ServicePlay :=
  if !p.hasHandle then (.noHandle, [], p)
  else
    let waits := c.wantsReply && p.service.isRunning
    let (events, p) := keepUp { p with service := p.service.send call c }
    if waits then (.sent, events, { p with waiting := p.waiting ++ [call] })
    else (.completed (p.service.callStatus call), events, p)

def actOnHost (a : HostAction) (p : ServicePlay) : ServiceOutcome × ServicePlay :=
  match Cast.act a p.service.host with
  | .ok h c => (.host h, { p with service := p.service.changeHost fun _ => c })
  | .error panic c => (.panicked panic, { p with service := p.service.changeHost fun _ => c })

def act (s : ServiceStep) (p : ServicePlay) : ServiceOutcome × List WorkEvent × ServicePlay :=
  match s with
  | .send call c => p.send call c
  | .addObserver call name =>
    match p.service.host.observer? name with
    | some o => p.send call (.addObserver o)
    | none => (if p.hasHandle then .noObserver else .noHandle, [], p)
  | .removeObserver call name =>
    match p.service.host.observer? name with
    | some o => p.send call (.removeObserver o)
    | none => (if p.hasHandle then .noObserver else .noHandle, [], p)
  | .host a =>
    let (outcome, p) := p.actOnHost a
    (outcome, [], p)
  | .release run =>
    let (released, events, p) := p.release run
    (.released released, events, p)
  | .drain =>
    let (events, p) := p.releaseAll p.service.dispatcher.queue.nextId
    (.nothing, events, p)
  | .dropHandle => (.dropped p.hasHandle, [], { p with service := p.service.dropHandle })
  | .refused wantsHandle => (if wantsHandle && !p.hasHandle then .noHandle else .nothing, [], p)

/-- Takes the calls that are done off the list of those that wait. -/
def collect (p : ServicePlay) : List (CallId × CallStatus) × ServicePlay :=
  let status (call : CallId) := p.service.callStatus call
  ((p.waiting.map fun call => (call, status call)).filter fun e => e.2 ≠ .outstanding,
    { p with waiting := p.waiting.filter fun call => status call = .outstanding })

def effects (p : ServicePlay) : List Effect :=
  p.service.dispatcher.stage.effects

def step (s : ServiceStep) (p : ServicePlay) : ServiceRecord × ServicePlay :=
  let seen := p.effects.length
  let (outcome, work, p) := p.act s
  let (done, p) := p.settle.collect
  ({ outcome, effects := p.effects.drop seen, work, done, stopped := !p.service.isRunning }, p)

def playAll : List ServiceStep → ServicePlay → List ServiceRecord × ServicePlay
  | [], p => ([], p)
  | s :: rest, p =>
    let (r, p) := p.step s
    let (rs, p) := playAll rest p
    (r :: rs, p)

/-- What becomes of the service once its callers gave up and its handle is gone. -/
def ending (p : ServicePlay) : ServiceStatus :=
  let s := p.waiting.foldl (fun s call => s.abandon call) p.service
  s.dropHandle.settle.status

end ServicePlay

end FilterDispatch.Rehearsal
