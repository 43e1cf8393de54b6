import FilterDispatch.Stress.Measure

/-!
A stress run as a machine: a client with a task for each request, the service and its workers.  A
task sends its request and waits for the answer, whenever that comes; with all answers collected the
client shuts the service down.  Who moves when is left open, and every order of the moves is a run.
-/

namespace FilterDispatch.Stress

open Scenario (World)

/-- Why a run breaks off: a call found the service closed, or its loop had panicked. -/
inductive Breakdown
  | closed
  | panicked (p : Panic)
  deriving DecidableEq, Repr

/-- How far the client is. -/
inductive Phase
  | measuring
  | stopping (call : CallId)
  | joining
  | done
  | failed (why : Breakdown)
  deriving DecidableEq, Repr

structure Machine where
  engine : Engine
  service : Service World
  requests : Nat
  unsent : List Sent
  awaited : List CallId := []
  /-- The newest answer first. -/
  collected : List (CallId × MatchResult) := []
  phase : Phase := .measuring

namespace Machine

def start (requests frames : Nat) (c : Config) : Except Fault Machine := do
  let x ← prepare requests frames c
  return { engine := x.engine, service := x.service, requests, unsent := x.commands }

def fail (why : Breakdown) (m : Machine) : Machine :=
  { m with phase := .failed why }

def send? (call : CallId) (m : Machine) : Option Machine :=
  match m.phase, m.unsent.find? fun x => x.call = call with
  | .measuring, some x =>
    some
      { m with
        service := m.service.send x.call x.command
        unsent := m.unsent.eraseP fun y => y.call = call
        awaited := call :: m.awaited }
  | _, _ => none

/-- The answer to a request is collected.  The first one that is not to be had ends the run. -/
def collect? (call : CallId) (m : Machine) : Option Machine :=
  match m.phase with
  | .measuring =>
    if m.awaited.contains call then
      match m.service.callStatus call with
      | .outstanding => none
      | .answered (.answer (.result r)) =>
        some { m with awaited := m.awaited.erase call, collected := (call, r) :: m.collected }
      | .answered _ | .closed => some (m.fail .closed)
    else none
  | _ => none

/-- With nothing left to collect the client shuts the service down, and waits for its loop. -/
def client? (m : Machine) : Option Machine :=
  match m.phase with
  | .measuring =>
    if m.unsent.isEmpty && m.awaited.isEmpty then
      let call : CallId := m.requests
      some { m with service := m.service.send call .shutdown, phase := .stopping call }
    else none
  | .stopping call =>
    match m.service.callStatus call with
    | .outstanding => none
    | .answered _ => some { m with phase := .joining }
    | .closed => some (m.fail .closed)
  | .joining =>
    match m.service.status with
    | .running => none
    | .stopped => some { m with phase := .done }
    | .panicked p => some (m.fail (.panicked p))
  | .done | .failed _ => none

/-- What a clock shows for each request is given. -/
def summary (latency : CallId → Float) (m : Machine) : Summary where
  requests := m.requests
  blocked := (m.collected.map (·.2)).count .blockRule
  latencies := ascending (m.collected.map fun x => latency x.1)

def outcome? (latency : CallId → Float) (m : Machine) : Option (Except Breakdown Summary) :=
  match m.phase with
  | .done => some (.ok (m.summary latency))
  | .failed why => some (.error why)
  | .measuring | .stopping _ | .joining => none

inductive Move
  | send (call : CallId)
  | collect (call : CallId)
  | client
  | enqueue
  | takeCommand
  | takeOutcome
  | start (id : JobId)
  | finish (id : JobId)
  deriving DecidableEq, Repr

def withService (m : Machine) : Option (Service World) → Option Machine
  | some service => some { m with service }
  | none => none

def step? : Move → Machine → Option Machine
  | .send call, m => m.send? call
  | .collect call, m => m.collect? call
  | .client, m => m.client?
  | .enqueue, m => m.withService m.service.enqueue?
  | .takeCommand, m => m.withService m.service.takeCommand?
  | .takeOutcome, m => m.withService m.service.takeOutcome?
  | .start id, m => m.withService (m.service.start? id)
  | .finish id, m => m.withService (m.service.finish? m.engine id)

def run? : List Move → Machine → Option Machine
  | [], m => some m
  | move :: rest, m =>
    match m.step? move with
    | some n => run? rest n
    | none => none

end Machine

end FilterDispatch.Stress
