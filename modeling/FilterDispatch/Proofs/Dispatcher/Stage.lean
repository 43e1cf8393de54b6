import FilterDispatch.Dispatcher.Host
import FilterDispatch.Proofs.Control

/-! The journal of the control sequence: each action of the stage adds its effects at the end, also
when the host panics in it. -/

namespace FilterDispatch

/-- The callback that is invoked, and what it receives. -/
def Effect.answer? : Effect → Option (CallId × Answer)
  | .callback call a => some (call, a)
  | _ => none

/-- The notification that a pass over the observers begins with. -/
def Effect.pass? : Effect → Option Notification
  | .pass n => some n
  | _ => none

namespace Stage

variable {σ : Type}

/-- The stage after some more effects, with what has become of the host. -/
def log (new : List Effect) (h : σ) (s : Stage σ) : Stage σ :=
  { host := h, journal := new.reverse ++ s.journal }

@[simp] theorem log_host (new : List Effect) (h : σ) (s : Stage σ) : (s.log new h).host = h := rfl

@[simp] theorem effects_log (new : List Effect) (h : σ) (s : Stage σ) :
    (s.log new h).effects = s.effects ++ new := by
  simp [log, effects]

@[simp] theorem log_log (new later : List Effect) (h k : σ) (s : Stage σ) :
    (s.log new h).log later k = s.log (new ++ later) k := by
  simp [log]

variable [Host σ]

theorem resolve_apply (frame : FrameId) (s : Stage σ) :
    resolve frame s = match Host.resolve frame s.host with
      | .ok found h => .ok found (s.log [.resolved frame found] h)
      | .error p h => .error p (s.log [] h) := by
  simp only [resolve, act, note, Control.bind_apply, Control.modify_apply, Control.pure_apply]
  cases Host.resolve frame s.host with
  | ok found h => rfl
  | error p h => rfl

theorem ancestorsOf_apply (frame : LiveFrame) (s : Stage σ) :
    ancestorsOf frame s = match Host.ancestorChain frame s.host with
      | .ok chain h => .ok chain (s.log [.ancestorsOf frame] h)
      | .error p h => .error p (s.log [] h) := by
  simp only [ancestorsOf, act, note, Control.bind_apply, Control.modify_apply, Control.pure_apply]
  cases Host.ancestorChain frame s.host with
  | ok chain h => rfl
  | error p h => rfl

/-- The key of the page that was found; the empty one if none was. -/
def keyOf (found : Option (Url × SiteKey)) : SiteKey :=
  match found with
  | some (_, key) => key
  | none => {}

theorem siteKeyFor_apply (urls : List Url) (s : Stage σ) :
    siteKeyFor urls s = match Host.findSiteKey urls s.host with
      | .ok found h => .ok (keyOf found) (s.log [.siteKeyFor urls] h)
      | .error p h => .error p (s.log [] h) := by
  simp only [siteKeyFor, act, note, Control.bind_apply, Control.modify_apply]
  cases Host.findSiteKey urls s.host with
  | ok found h =>
      cases found with
      | none => rfl
      | some page => rfl
  | error p h => rfl

theorem classify_apply (call : EngineCall) (s : Stage σ) :
    classify call s = match Host.classifyInline call s.host with
      | .ok c h => .ok c (s.log [.engineCall call] h)
      | .error p h => .error p (s.log [.engineCall call] h) := by
  simp only [classify, act, note, Control.bind_apply, Control.modify_apply]
  cases Host.classifyInline call s.host with
  | ok _ h => rfl
  | error p h => rfl

theorem answer_apply (call : CallId) (a : Answer) (s : Stage σ) :
    answer call a s = match Host.receive call a s.host with
      | .ok _ h => .ok () (s.log [.callback call a] h)
      | .error p h => .error p (s.log [.callback call a] h) := by
  simp only [answer, act, note, Control.bind_apply, Control.modify_apply]
  cases Host.receive call a s.host with
  | ok _ h => rfl
  | error p h => rfl

theorem tell_apply (o : ObserverId) (n : Notification) (s : Stage σ) :
    tell o n s = match Host.observe o n s.host with
      | .ok _ h => .ok () (s.log [.told o n] h)
      | .error p h => .error p (s.log [.told o n] h) := by
  simp only [tell, act, note, Control.bind_apply, Control.modify_apply]
  cases Host.observe o n s.host with
  | ok _ h => rfl
  | error p h => rfl

/-- The journal grew by effects of one kind. -/
def Adds (P : Effect → Prop) (s t : Stage σ) : Prop :=
  ∃ new, t.effects = s.effects ++ new ∧ ∀ e ∈ new, P e

omit [Host σ] in
theorem adds_log {P : Effect → Prop} {new : List Effect} (s : Stage σ) (h : σ)
    (all : ∀ e ∈ new, P e) : Adds P s (s.log new h) :=
  ⟨new, effects_log new h s, all⟩

instance (P : Effect → Prop) : IsPreorder (Stage σ) (Adds P) where
  refl s := ⟨[], by simp, by simp⟩
  trans s t u := by
    rintro ⟨first, grown, all⟩ ⟨later, grown', all'⟩
    refine ⟨first ++ later, by rw [grown', grown, List.append_assoc], ?_⟩
    intro e member
    rcases List.mem_append.mp member with old | new
    · exact all e old
    · exact all' e new

end Stage

/-- A quiet host: it knows some frames, each with its own page above it, and nothing else. -/
structure Register where
  frames : List LiveFrame

instance : Host Register where
  resolve frame := do return (← get).frames.find? fun live => live.id = frame
  ancestorChain live := return [live.url]
  findSiteKey _ := return none
  classifyInline _ := return .ignored
  receive _ _ := return ()
  observe _ _ := return ()
  owned _ _ := true

end FilterDispatch
