import FilterDispatch.Observer.Script

/-!
What becomes of a list and of the observers themselves.  The list knows an observer by the block of
storage that it occupies.  A block is used again once its observer is dead and no registration refers
to it any more, for a registration does not keep an observer alive but it keeps the block.
-/

namespace FilterDispatch

/-- Where an observer is; here this is all that the list knows of it. -/
abbrev Block := ObserverId

/-- Observers are numbered from one as they are made. -/
structure Storage where
  made : Nat := 0
  /-- The observer that was made in a block last. -/
  occupant : Block → Nat := fun _ => 0
  /-- The block that an observer was made in. -/
  home : Nat → Block := fun _ => 0
  owned : Block → Bool := fun _ => false

namespace Storage

def make (b : Block) (s : Storage) : Storage where
  made := s.made + 1
  occupant c := if c = b then s.made + 1 else s.occupant c
  home n := if n = s.made + 1 then b else s.home n
  owned c := if c = b then true else s.owned c

def own (b : Block) (v : Bool) (s : Storage) : Storage :=
  { s with owned := fun c => if c = b then v else s.owned c }

end Storage

/-- A list, and the observers that are registered with it or may be. -/
abbrev Tenancy := ObserverList × Storage

namespace Tenancy

def alive (s : Tenancy) (b : Block) : Bool :=
  s.1.alive s.2.owned b

def vacant (s : Tenancy) (b : Block) : Bool :=
  !s.alive b && !s.1.contains b

/-- Whether the observer is alive; nobody else occupies its block then. -/
def lives (s : Tenancy) (n : Nat) : Bool :=
  s.alive (s.2.home n) && s.2.occupant (s.2.home n) == n

/-- The observers that are registered, in order. -/
def registered (s : Tenancy) : List Nat :=
  s.1.entries.map s.2.occupant

/-- What a pass begins with: the dead are dropped, and the others are collected. -/
def opening (s : Tenancy) : Tenancy :=
  ((s.1.prune s.2.owned).collect, s.2)

/-- What a pass leaves behind that gets to `t`: it lets go of what it collected. -/
def closing (s t : Tenancy) : Tenancy :=
  (s.1.letGo t.1, t.2)

end Tenancy

/-- What owners do, in passes or between them. -/
inductive Deal
  | make (b : Block)
  | giveUp (b : Block)
  | regain (b : Block)
  | add (b : Block)
  | remove (b : Block)
  deriving DecidableEq, Repr

/-- What the owner is told, and what it leads to.  Nobody can name an observer that is dead, or make
one where there is no room. -/
def Deal.apply? (s : Tenancy) : Deal → Option (Bool × Tenancy)
  | .make b => if s.vacant b then some (true, (s.1, s.2.make b)) else none
  | .giveUp b => if s.2.owned b then some (true, (s.1, s.2.own b false)) else none
  | .regain b => if s.alive b then some (true, (s.1, s.2.own b true)) else none
  | .add b => if s.alive b then some ((s.1.add b).1, ((s.1.add b).2, s.2)) else none
  | .remove b => if s.alive b then some ((s.1.remove b).1, ((s.1.remove b).2, s.2)) else none

/-- One thing after the other, each depending on what those before it came to.  In a pass every observer
that is told may do as much, and a panic of the pass may be caught. -/
inductive Dealings
  | done
  | panic (p : Panic)
  | deal (a : Deal) (next : Option Bool → Dealings)
  | pass (react : Block → Dealings) (next : Option Panic → Dealings)

namespace Dealings

def run : Dealings → Control Tenancy Unit
  | .done => pure ()
  | .panic p => throw p
  | .deal a next => fun s =>
    match a.apply? s with
    | none => (next none).run s
    | some (r, t) => (next (some r)).run t
  | .pass react next => fun s =>
    match ObserverList.notify Storage.owned (fun b => (react b).run) s with
    | .ok _ t => (next none).run t
    | .error p t => (next (some p)).run t

inductive Event
  | dealt (a : Deal) (result : Bool)
  | began
  | told (b : Block)
  | ended (panicked : Option Panic)
  deriving DecidableEq, Repr

/-- Something that happened, between the state before it and the state after it. -/
structure Deed where
  before : Tenancy
  event : Event
  after : Tenancy

/-- All that happens, at whatever depth, in the order in which it happens. -/
def history : Dealings → Tenancy → List Deed
  | .done, _ | .panic _, _ => []
  | .deal a next, s =>
    match a.apply? s with
    | none => (next none).history s
    | some (r, t) => ⟨s, .dealt a r, t⟩ :: (next (some r)).history t
  | .pass react next, s =>
    let tell b := (react b).run
    ⟨s, .began, s.opening⟩ ::
      ((ObserverList.invocations tell s.opening.1.entries s.opening).flatMap
          (fun i => ⟨i.before, .told i.observer, i.before⟩ :: (react i.observer).history i.before) ++
        match ObserverList.passOver tell s.opening.1.entries s.opening with
        | .ok _ t => ⟨t, .ended none, s.closing t⟩ :: (next none).history (s.closing t)
        | .error p t => ⟨t, .ended (some p), s.closing t⟩ :: (next (some p)).history (s.closing t))

end Dealings

end FilterDispatch
