import FilterDispatch.Config
import FilterDispatch.Scenario.World
import FilterDispatch.Service.Turn
import FilterDispatch.Stress.Summary
import FilterDispatch.Stress.Synthetic

/-! A stress run: all requests are sent to one service, and their answers counted. -/

namespace FilterDispatch.Stress

open Scenario (World)

inductive Fault
  | nothingToDo
  | config (fault : Config.Fault)
  | scenario (fault : Scenario.Fault)
  | url (fault : Url.Fault)
  | closed
  | panicked (p : Panic)

def nothingToDoMessage : String :=
  "--requests and --frames must be at least 1"

def badUrlMessage (fault : Url.Fault) : String :=
  "Bad synthetic URL: " ++ fault.message

/-- Sends a command and lets the service come to rest. -/
def submit (e : Engine) (s : Service World) (c : Sent) : Service World :=
  (s.send c.call c.command).rest e

def result? (s : Service World) (call : CallId) : Option MatchResult :=
  match s.callStatus call with
  | .answered (.answer (.result r)) => some r
  | _ => none

/-- One answer for each request, or the service was gone. -/
def answers (s : Service World) (requests : Nat) : Except Fault (List MatchResult) :=
  match (List.range requests).mapM (result? s) with
  | some results => .ok results
  | none => .error .closed

def ascending (xs : List Float) : List Float :=
  xs.mergeSort fun a b => a ≤ b

/-- What a run starts with: a service for the made-up scenario, and what is to be sent to it. -/
structure Setting where
  scenario : Scenario
  service : Service World
  commands : List Sent

def Setting.engine (x : Setting) : Engine :=
  Scenario.engine x.scenario.ownTables

def prepare (requests frames : Nat) (c : Config) : Except Fault Setting := do
  if requests = 0 ∨ frames = 0 then throw .nothingToDo
  c.check.mapError .config
  let scenario ← (scenario frames).mapError .scenario
  let service ←
    (Service.spawn c.maxConcurrent c.commandBuffer (World.ofScenario scenario)).mapError .panicked
  let commands ← (commands scenario.snapshot requests frames).mapError .url
  return { scenario, service, commands }

/-- Runs so many requests; what a clock shows for each of them is given. -/
def measure (latency : CallId → Float) (requests frames : Nat) (c : Config) :
    Except Fault Summary := do
  let x ← prepare requests frames c
  let results ← answers (x.commands.foldl (submit x.engine) x.service) requests
  let latencies := ascending ((List.range requests).map latency)
  return { requests, blocked := results.count .blockRule, latencies }

end FilterDispatch.Stress
