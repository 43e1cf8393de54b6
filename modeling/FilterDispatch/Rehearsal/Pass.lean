import FilterDispatch.Observer.List

/-!
Passes over observers that follow a script.  An observer that is told takes the actions of its
script in turn; they may change the list, give observers up, start further passes and panic.
-/

namespace FilterDispatch.Rehearsal

/-- One line of a script; some lines are played once only. -/
structure Line (α : Type) where
  action : α
  once : Bool := false

inductive ListAction
  | create (name : String) (script : List (Line ListAction))
  | add (name : String)
  | remove (name : String)
  | drop (name : String)
  | fire
  | panic (message : String)
  /-- Something that is not understood is answered by a message. -/
  | refused (op : String) (name : Option String) (message : String)

inductive ListOutcome
  | done
  | flag (b : Bool)
  | tooDeep
  | panicked (p : Panic)
  | refused (message : String)

inductive PassEvent
  | notified (name : String)
  | acted (name : String) (action : ListAction) (outcome : ListOutcome)
  | panics (name : String)

structure Player where
  name : String
  script : List (Line ListAction)

/-- Observers with their owners; the newest event comes first. -/
structure Troupe where
  players : List Player := []
  owners : List (String × ObserverId) := []
  log : List PassEvent := []

namespace Troupe

def owned (t : Troupe) (o : ObserverId) : Bool :=
  t.owners.any fun e => e.2 = o

def player (t : Troupe) (o : ObserverId) : Player :=
  t.players.getD o ⟨"", []⟩

def disown (name : String) (t : Troupe) : Troupe :=
  { t with owners := t.owners.filter fun e => e.1 ≠ name }

/-- A new observer takes the place of one that was owned under its name. -/
def create (name : String) (script : List (Line ListAction)) (t : Troupe) : Troupe :=
  let t := t.disown name
  { t with
    players := t.players ++ [⟨name, script⟩]
    owners := (name, t.players.length) :: t.owners }

def note (e : PassEvent) (t : Troupe) : Troupe :=
  { t with log := e :: t.log }

def setScript (o : ObserverId) (script : List (Line ListAction)) (t : Troupe) : Troupe :=
  { t with players := t.players.modify o fun p => { p with script } }

end Troupe

abbrev Ring := ObserverList × Troupe

namespace Ring

def change (f : Troupe → Troupe) : Control Ring Unit :=
  modify fun r => (r.1, f r.2)

def ownedBy (name : String) : Control Ring (Option ObserverId) := do
  return (← get).2.owners.lookup name

/-- What an action comes to, given what a further pass comes to. -/
def act (nested : Control Ring ListOutcome) : ListAction → Control Ring ListOutcome
  | .create name script => do
    change (Troupe.create name script)
    return .done
  | .add name => do
    match ← ownedBy name with
    | none => return .done
    | some o =>
      let (added, list) := (← get).1.add o
      modify fun r => (list, r.2)
      return .flag added
  | .remove name => do
    match ← ownedBy name with
    | none => return .done
    | some o =>
      let (removed, list) := (← get).1.remove o
      modify fun r => (list, r.2)
      return .flag removed
  | .drop name => do
    let found ← ownedBy name
    change (Troupe.disown name)
    return .flag found.isSome
  | .fire => nested
  | .panic message => throw (.message message)
  | .refused _ _ message => return .refused message

def play (nested : Control Ring ListOutcome) (name : String) : List ListAction → Control Ring Unit
  | [] => return ()
  | .panic message :: _ => do
    change (Troupe.note (.panics name))
    throw (.message message)
  | action :: rest => do
    let outcome ← act nested action
    change (Troupe.note (.acted name action outcome))
    play nested name rest

/-- The lines that are played once are struck before the first action. -/
def tell (nested : Control Ring ListOutcome) (o : ObserverId) : Control Ring Unit := do
  let player := (← get).2.player o
  change (Troupe.note (.notified player.name))
  change (Troupe.setScript o (player.script.filter fun line => !line.once))
  play nested player.name (player.script.map (·.action))

/-- A pass, with so many running at most; a panic ends it and goes no further. -/
def fire : Nat → Control Ring ListOutcome
  | 0 => return .tooDeep
  | depth + 1 => fun r =>
    match ObserverList.notify Troupe.owned (tell (fire depth)) r with
    | .ok _ s => .ok .done s
    | .error p s => .ok (.panicked p) s

def deepest : Nat := 3

/-- One action from outside any pass, and the events it caused in order. -/
def step (action : ListAction) (r : Ring) : ListOutcome × List PassEvent × Ring :=
  match act (fire deepest) action (r.1, { r.2 with log := [] }) with
  | .ok outcome s => (outcome, s.2.log.reverse, s)
  | .error p s => (.panicked p, s.2.log.reverse, s)

end Ring

end FilterDispatch.Rehearsal
