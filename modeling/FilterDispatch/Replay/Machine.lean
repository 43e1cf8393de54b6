import FilterDispatch.Config
import FilterDispatch.Scenario.World
import FilterDispatch.Service.Turn

/-!
A replay as a machine: one client, the service and its workers.  The client sends the events one
after the other, each only after the one before it has been flushed; when the others move is left
open, and every order of the moves is a run.
-/

namespace FilterDispatch.Replay

open Scenario (Event World counter keeper)

/-- What the client does, one after the other. -/
inductive Task
  | observe (o : ObserverId)
  | dispatch (e : Event)
  | flush (index : Nat) (e : Event)
  | shutdown
  | join

/-- What became of an event, and the notifications that it caused. -/
structure Record where
  index : Nat
  event : Event
  reply : Reply
  notifications : List Notification
  deriving DecidableEq, Repr

structure Report where
  records : List Record
  stats : SessionStats
  deriving DecidableEq, Repr

structure Machine where
  service : Service World
  snapshot : Snapshot
  todo : List Task
  /-- The call of the first task, once it is sent. -/
  sent : Option CallId := none
  nextCall : CallId := 0
  reply : Reply := .done
  /-- The newest record first. -/
  records : List Record := []
  closed : Bool := false

def eventCommand (s : Snapshot) : Event → Command
  | .request url contentType frame => .request s url contentType frame
  | .socket url frame => .socketUpgrade s url frame
  | .response url contentType frame headers => .response s url contentType frame headers
  | .popup url frame => .popup s url frame
  | .document url frame => .document s url frame
  | .rewrite url frame => .rewrite s url frame

def Task.command? (s : Snapshot) : Task → Option Command
  | .observe o => some (.addObserver o)
  | .dispatch e => some (eventCommand s e)
  | .flush _ _ => some .flush
  | .shutdown => some .shutdown
  | .join => none

/-- Each event is dispatched and then flushed. -/
def eventTasks (events : List Event) : List Task :=
  (events.mapIdx fun i e => [.dispatch e, .flush i e]).flatten

def tasks (events : List Event) : List Task :=
  [.observe keeper, .observe counter] ++ eventTasks events ++ [.shutdown, .join]

namespace Machine

def start (s : Scenario) (c : Config) : Except Panic Machine :=
  match Service.spawn c.maxConcurrent c.commandBuffer (World.ofScenario s) with
  | .ok service => .ok { service, snapshot := s.snapshot, todo := tasks s.events }
  | .error p => .error p

def notifications (m : Machine) : List Notification :=
  m.service.host.notifications

def takeNotifications (m : Machine) : Machine :=
  { m with service := m.service.changeHost fun w => { w with notifications := [] } }

/-- The first task is done; a flush ends its event. -/
def finishTask (r : Reply) (rest : List Task) (m : Machine) : Task → Machine
  | .dispatch _ => { m with todo := rest, sent := none, reply := r }
  | .flush index event =>
    let record : Record := ⟨index, event, m.reply, m.notifications⟩
    { m.takeNotifications with todo := rest, sent := none, records := record :: m.records }
  | .observe _ | .shutdown | .join => { m with todo := rest, sent := none }

/-- A move of the client: it sends, it takes a reply, or it sees that the service is gone. -/
def client? (m : Machine) : Option Machine :=
  if m.closed then none
  else
    match m.todo, m.sent with
    | [], _ => none
    | task :: rest, none =>
      match task.command? m.snapshot with
      | some c =>
        let service := m.service.send m.nextCall c
        some { m with service, sent := some m.nextCall, nextCall := m.nextCall + 1 }
      | none => if m.service.isRunning then none else some (m.finishTask .done rest task)
    | task :: rest, some call =>
      match m.service.callStatus call with
      | .outstanding => none
      | .answered r => some (m.finishTask r rest task)
      | .closed => some { m with closed := true }

/-- The report, or nothing if the service was gone too early. -/
def outcome? (m : Machine) : Option (Option Report) :=
  if m.closed then some none
  else if m.todo.isEmpty then some (some ⟨m.records.reverse, m.service.host.stats⟩)
  else none

def engine (s : Scenario) : Engine :=
  Scenario.engine s.ownTables

inductive Move
  | client
  | enqueue
  | takeCommand
  | takeOutcome
  | start (id : JobId)
  | finish (id : JobId)
  deriving DecidableEq, Repr

def withService (m : Machine) : Option (Service World) → Option Machine
  | some service => some { m with service }
  | none => none

def step? (e : Engine) : Move → Machine → Option Machine
  | .client, m => m.client?
  | .enqueue, m => m.withService m.service.enqueue?
  | .takeCommand, m => m.withService m.service.takeCommand?
  | .takeOutcome, m => m.withService m.service.takeOutcome?
  | .start id, m => m.withService (m.service.start? id)
  | .finish id, m => m.withService (m.service.finish? e id)

def run? (e : Engine) : List Move → Machine → Option Machine
  | [], m => some m
  | move :: rest, m =>
    match m.step? e move with
    | some n => run? e rest n
    | none => none

end Machine

end FilterDispatch.Replay
