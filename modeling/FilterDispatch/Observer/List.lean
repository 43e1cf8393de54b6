import FilterDispatch.Panic

/-!
Observers in the order in which they registered.  The list does not keep an observer alive: once
its owner gave it up it lives on only in passes that collected it before.
-/

namespace FilterDispatch

/-- Each observer that is ever made has an id of its own. -/
abbrev ObserverId := Nat

/-- The registrations, and the observers that passes now running have collected. -/
structure ObserverList where
  entries : List ObserverId := []
  held : List ObserverId := []
  deriving DecidableEq, Repr

namespace ObserverList

def contains (l : ObserverList) (o : ObserverId) : Bool :=
  l.entries.contains o

/-- Registers an observer that is not registered yet. -/
def add (l : ObserverList) (o : ObserverId) : Bool × ObserverList :=
  if l.contains o then (false, l) else (true, { l with entries := l.entries ++ [o] })

def remove (l : ObserverList) (o : ObserverId) : Bool × ObserverList :=
  (l.contains o, { l with entries := l.entries.filter (· ≠ o) })

/-- An observer lives while it is owned or held by a pass. -/
def alive (owned : ObserverId → Bool) (l : ObserverList) (o : ObserverId) : Bool :=
  owned o || l.held.contains o

/-- Drops the registrations of observers that are dead. -/
def prune (owned : ObserverId → Bool) (l : ObserverList) : ObserverList :=
  { l with entries := l.entries.filter (l.alive owned) }

/-- A pass collects the observers that are registered. -/
def collect (l : ObserverList) : ObserverList :=
  { l with held := l.held ++ l.entries }

/-- At its end, also by a panic, a pass lets go of what it collected. -/
def letGo (before : ObserverList) (l : ObserverList) : ObserverList :=
  { l with held := before.held }

variable {σ : Type}

/-- Tells the collected observers in turn; one that is no longer registered is passed over. -/
def passOver (tell : ObserverId → Control (ObserverList × σ) Unit) :
    List ObserverId → Control (ObserverList × σ) Unit
  | [] => pure ()
  | o :: rest => do
    if (← get).1.contains o then tell o
    passOver tell rest

/-- One pass over the observers that are alive at its start. -/
def notify (owned : σ → ObserverId → Bool) (tell : ObserverId → Control (ObserverList × σ) Unit) :
    Control (ObserverList × σ) Unit := fun s =>
  let start := s.1.prune (owned s.2)
  match passOver tell start.entries (start.collect, s.2) with
  | .ok _ t => .ok () (letGo start t.1, t.2)
  | .error p t => .error p (letGo start t.1, t.2)

end ObserverList

end FilterDispatch
