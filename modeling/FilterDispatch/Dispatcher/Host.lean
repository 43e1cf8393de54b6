import FilterDispatch.Engine
import FilterDispatch.Notification
import FilterDispatch.Observer.List

/-!
What surrounds a dispatcher: frames and site keys to ask for, an engine that answers in line,
callers to answer and observers to tell.  All of it happens on one control sequence, whose journal
lists what the dispatcher did there.
-/

namespace FilterDispatch

/-- Each callback that is handed in has an id of its own. -/
abbrev CallId := Nat

/-- What a callback receives. -/
inductive Answer
  | result (r : MatchResult)
  | rewrite (target : Option Url)
  deriving DecidableEq, Repr

class Host (σ : Type) where
  resolve : FrameId → Control σ (Option LiveFrame)
  /-- Nearest parent first. -/
  ancestorChain : LiveFrame → Control σ (List Url)
  findSiteKey : List Url → Control σ (Option (Url × SiteKey))
  classifyInline : EngineCall → Control σ Classification
  receive : CallId → Answer → Control σ Unit
  observe : ObserverId → Notification → Control σ Unit
  owned : σ → ObserverId → Bool

inductive Effect
  | resolved (frame : FrameId) (found : Option LiveFrame)
  | ancestorsOf (frame : LiveFrame)
  | siteKeyFor (urls : List Url)
  | engineCall (call : EngineCall)
  | callback (call : CallId) (answer : Answer)
  | pass (n : Notification)
  | told (observer : ObserverId) (n : Notification)

/-- The control sequence: its host, and its journal with the newest effect first. -/
structure Stage (σ : Type) where
  host : σ
  journal : List Effect := []

namespace Stage

variable {σ : Type}

/-- What happened, in order. -/
def effects (s : Stage σ) : List Effect :=
  s.journal.reverse

def note (e : Effect) : Control (Stage σ) Unit :=
  modify fun s => { s with journal := e :: s.journal }

/-- Something that the host does. -/
def act {α : Type} (m : Control σ α) : Control (Stage σ) α := fun s =>
  match m s.host with
  | .ok a h => .ok a { s with host := h }
  | .error p h => .error p { s with host := h }

variable [Host σ]

def resolve (frame : FrameId) : Control (Stage σ) (Option LiveFrame) := do
  let found ← act (Host.resolve frame)
  note (.resolved frame found)
  return found

def ancestorsOf (frame : LiveFrame) : Control (Stage σ) (List Url) := do
  let chain ← act (Host.ancestorChain frame)
  note (.ancestorsOf frame)
  return chain

/-- The site key of the pages; the empty one if there is none. -/
def siteKeyFor (urls : List Url) : Control (Stage σ) SiteKey := do
  let found ← act (Host.findSiteKey urls)
  note (.siteKeyFor urls)
  match found with
  | some (_, key) => return key
  | none => return {}

def classify (call : EngineCall) : Control (Stage σ) Classification := do
  note (.engineCall call)
  act (Host.classifyInline call)

def answer (call : CallId) (a : Answer) : Control (Stage σ) Unit := do
  note (.callback call a)
  act (Host.receive call a)

def tell (o : ObserverId) (n : Notification) : Control (Stage σ) Unit := do
  note (.told o n)
  act (Host.observe o n)

/-- A frame that was found and the pages above it. -/
def context (frame : FrameId) : Control (Stage σ) (Option (LiveFrame × List Url)) := do
  match ← resolve frame with
  | none => return none
  | some live => return some (live, ← ancestorsOf live)

end Stage

end FilterDispatch
