import FilterDispatch.Observer.List

/-!
What observers may do while they are told: they change the list, act on the host, start further
passes over the same list, and panic.
-/

namespace FilterDispatch

variable {σ : Type}

/-- What is done, one thing after the other; each may depend on what those before it came to.  The
host may give observers up, and one that was given up is never owned again; one that is yet to be
made counts as owned. -/
inductive Script (owned : σ → ObserverId → Bool) : Type
  | done
  | panic (p : Panic)
  | add (o : ObserverId) (next : Bool → Script owned)
  | remove (o : ObserverId) (next : Bool → Script owned)
  | act (change : σ → σ) (frees : ∀ s o, owned (change s) o = true → owned s o = true)
      (next : σ → Script owned)
  | pass (react : ObserverId → Script owned) (next : Option Panic → Script owned)

namespace Script

variable {owned : σ → ObserverId → Bool}

/-- A panic of a further pass may be caught; to let it through is to panic again. -/
def run : Script owned → Control (ObserverList × σ) Unit
  | .done => pure ()
  | .panic p => throw p
  | .add o next => fun s => (next (s.1.add o).1).run ((s.1.add o).2, s.2)
  | .remove o next => fun s => (next (s.1.remove o).1).run ((s.1.remove o).2, s.2)
  | .act change _ next => fun s => (next s.2).run (s.1, change s.2)
  | .pass react next => fun s =>
    match ObserverList.notify owned (fun o => (react o).run) s with
    | .ok _ t => (next none).run t
    | .error p t => (next (some p)).run t

end Script

/-- An observer is told, and this is what it finds. -/
structure Invocation (σ : Type) where
  observer : ObserverId
  before : ObserverList × σ

/-- Whom a pass tells, in turn; nobody after one that panics. -/
def ObserverList.invocations (tell : ObserverId → Control (ObserverList × σ) Unit) :
    List ObserverId → ObserverList × σ → List (Invocation σ)
  | [], _ => []
  | o :: rest, s =>
    if s.1.contains o then
      ⟨o, s⟩ ::
        match tell o s with
        | .ok _ t => invocations tell rest t
        | .error _ _ => []
    else invocations tell rest s

/-- A pass: what each observer does when it is told, and what there is when the pass begins. -/
structure Pass (owned : σ → ObserverId → Bool) where
  react : ObserverId → Script owned
  start : ObserverList × σ

namespace Pass

variable {owned : σ → ObserverId → Bool}

def tell (p : Pass owned) (o : ObserverId) : Control (ObserverList × σ) Unit :=
  (p.react o).run

def collected (p : Pass owned) : List ObserverId :=
  (p.start.1.prune (owned p.start.2)).entries

/-- The observers are collected, and nobody has been told yet. -/
def opening (p : Pass owned) : ObserverList × σ :=
  ((p.start.1.prune (owned p.start.2)).collect, p.start.2)

def invocations (p : Pass owned) : List (Invocation σ) :=
  ObserverList.invocations p.tell p.collected p.opening

def invoked (p : Pass owned) : List ObserverId :=
  p.invocations.map (·.observer)

/-- What there is when the pass has ended, also by a panic. -/
def ending (p : Pass owned) : EStateM.Result Panic (ObserverList × σ) Unit :=
  ObserverList.notify owned p.tell p.start

/-- The observers whose turn comes before this one's. -/
def earlier (p : Pass owned) (o : ObserverId) : List ObserverId :=
  p.collected.takeWhile (· ≠ o)

end Pass

/-- All passes that begin while a script is run, those that observers start among them. -/
def Script.passes {owned : σ → ObserverId → Bool} :
    Script owned → ObserverList × σ → List (Pass owned)
  | .done, _ | .panic _, _ => []
  | .add o next, s => (next (s.1.add o).1).passes ((s.1.add o).2, s.2)
  | .remove o next, s => (next (s.1.remove o).1).passes ((s.1.remove o).2, s.2)
  | .act change _ next, s => (next s.2).passes (s.1, change s.2)
  | .pass react next, s =>
    let p : Pass owned := ⟨react, s⟩
    p :: p.invocations.flatMap (fun i => (react i.observer).passes i.before) ++
      match p.ending with
      | .ok _ t => (next none).passes t
      | .error e t => (next (some e)).passes t

/-- An observer is told, or, where nobody is, a pass has ended. -/
structure Moment (σ : Type) where
  told : Option ObserverId
  state : ObserverList × σ

/-- What passes do while a script is run, at whatever depth, in the order in which it happens. -/
def Script.trace {owned : σ → ObserverId → Bool} :
    Script owned → ObserverList × σ → List (Moment σ)
  | .done, _ | .panic _, _ => []
  | .add o next, s => (next (s.1.add o).1).trace ((s.1.add o).2, s.2)
  | .remove o next, s => (next (s.1.remove o).1).trace ((s.1.remove o).2, s.2)
  | .act change _ next, s => (next s.2).trace (s.1, change s.2)
  | .pass react next, s =>
    let p : Pass owned := ⟨react, s⟩
    p.invocations.flatMap
        (fun i => ⟨some i.observer, i.before⟩ :: (react i.observer).trace i.before) ++
      match p.ending with
      | .ok _ t => ⟨none, t⟩ :: (next none).trace t
      | .error e t => ⟨none, t⟩ :: (next (some e)).trace t

end FilterDispatch
