import FilterDispatch.Proofs.Dispatcher.Closure
import FilterDispatch.Service.Desk

/-!
The desk of a service.  The dispatcher puts a reply there whenever it invokes a callback, and it puts
nothing else there.
-/

namespace FilterDispatch

/-- The replies that are due for the callbacks invoked, the newest first. -/
def repliesOf (effects : List Effect) : List (CallId × Reply) :=
  ((effects.filterMap Effect.answer?).map fun told => (told.1, Reply.answer told.2)).reverse

theorem repliesOf_append (first later : List Effect) :
    repliesOf (first ++ later) = repliesOf later ++ repliesOf first := by
  simp [repliesOf]

theorem repliesOf_silent {effects : List Effect} (silent : effects.filterMap Effect.answer? = []) :
    repliesOf effects = [] := by
  simp [repliesOf, silent]

namespace Desk

variable {σ : Type}

/-- Between the two, each callback that was invoked put its reply on the desk. -/
def InKeeping (s t : Stage (Desk σ)) : Prop :=
  ∃ new, t.effects = s.effects ++ new ∧ t.host.replies = repliesOf new ++ s.host.replies

instance : IsPreorder (Stage (Desk σ)) InKeeping where
  refl s := ⟨[], (List.append_nil _).symm, rfl⟩
  trans := by
    rintro s t u ⟨first, effects, replies⟩ ⟨later, effects', replies'⟩
    refine ⟨first ++ later, ?_, ?_⟩
    · rw [effects', effects, List.append_assoc]
    · rw [replies', replies, repliesOf_append, List.append_assoc]

theorem inKeeping_log {s : Stage (Desk σ)} {new : List Effect} {desk : Desk σ}
    (silent : new.filterMap Effect.answer? = []) (same : desk.replies = s.host.replies) :
    InKeeping s (s.log new desk) :=
  ⟨new, Stage.effects_log new desk s, by rw [repliesOf_silent silent]; exact same⟩

theorem ofHost_eq_ok {α : Type} {m : Control σ α} {d e : Desk σ} {a : α} :
    ofHost m d = .ok a e ↔ ∃ h, m d.host = .ok a h ∧ e = { d with host := h } := by
  unfold ofHost
  cases m d.host with
  | ok b h => simp [and_assoc, eq_comm]
  | error p h => simp

theorem ofHost_eq_error {α : Type} {m : Control σ α} {d e : Desk σ} {p : Panic} :
    ofHost m d = .error p e ↔ ∃ h, m d.host = .error p h ∧ e = { d with host := h } := by
  unfold ofHost
  cases m d.host with
  | ok b h => simp
  | error q h => simp [and_assoc, eq_comm]

theorem ofHost_panics {α : Type} {m : Control σ α} {d : Desk σ} {p : Panic} :
    (∃ e, ofHost m d = .error p e) ↔ ∃ h, m d.host = .error p h := by
  simp [ofHost_eq_error]

theorem ofHost_bind {α β : Type} (m : Control σ α) (f : α → Control σ β) :
    ofHost (m >>= f) = (ofHost m >>= fun a => ofHost (f a) : Control (Desk σ) β) := by
  funext d
  simp only [ofHost, Control.bind_apply]
  cases m d.host with
  | ok a h => rfl
  | error p h => rfl

theorem ofHost_pure {α : Type} (a : α) :
    ofHost (pure a : Control σ α) = (pure a : Control (Desk σ) α) := rfl

theorem ofHost_ok {α : Type} {m : Control σ α} {d e : Desk σ} {a : α} (done : ofHost m d = .ok a e) :
    e.replies = d.replies := by
  obtain ⟨h, -, rfl⟩ := ofHost_eq_ok.mp done
  rfl

theorem ofHost_error {α : Type} {m : Control σ α} {d e : Desk σ} {p : Panic}
    (failed : ofHost m d = .error p e) : e.replies = d.replies := by
  obtain ⟨h, -, rfl⟩ := ofHost_eq_error.mp failed
  rfl

variable [Host σ]

theorem look_ofHost (c : Call) : (c.look : Control (Desk σ) (Option Sight)) = ofHost c.look := by
  simp only [Call.look, ofHost_bind]
  congr 1
  funext found
  cases found with
  | none => rfl
  | some live =>
      simp only [ofHost_bind]
      congr 1
      funext ancestors
      split
      · rw [ofHost_bind]
        rfl
      · rfl

theorem sight_ofHost (frame : FrameId) :
    (Sight.look frame : Control (Desk σ) (Option Sight)) = ofHost (Sight.look frame) := by
  simp only [Sight.look, ofHost_bind]
  congr 1
  funext found
  cases found with
  | none => rfl
  | some live =>
      simp only [ofHost_bind, ofHost_pure]
      rfl

theorem tellAll_ofHost (n : Notification) (os : List ObserverId) :
    (n.tellAll os : Control (Desk σ) Unit) = ofHost (n.tellAll os) := by
  induction os with
  | nil => rfl
  | cons o rest ih =>
      simp only [Notification.tellAll, ofHost_bind, ih]
      rfl

theorem kept : Stage.Kept (InKeeping : Stage (Desk σ) → Stage (Desk σ) → Prop) where
  resolve frame s := by
    unfold Control.final
    rw [Stage.resolve_apply]
    cases called : Host.resolve frame s.host with
    | ok found h => exact inKeeping_log rfl (ofHost_ok called)
    | error p h => exact inKeeping_log rfl (ofHost_error called)
  ancestorsOf live s := by
    unfold Control.final
    rw [Stage.ancestorsOf_apply]
    cases called : Host.ancestorChain live s.host with
    | ok chain h => exact inKeeping_log rfl (ofHost_ok called)
    | error p h => exact inKeeping_log rfl (ofHost_error called)
  siteKeyFor urls s := by
    unfold Control.final
    rw [Stage.siteKeyFor_apply]
    cases called : Host.findSiteKey urls s.host with
    | ok page h => exact inKeeping_log rfl (ofHost_ok called)
    | error p h => exact inKeeping_log rfl (ofHost_error called)
  classify call s := by
    unfold Control.final
    rw [Stage.classify_apply]
    cases called : Host.classifyInline call s.host with
    | ok c h => exact inKeeping_log rfl (ofHost_ok called)
    | error p h => exact inKeeping_log rfl (ofHost_error called)
  answer call a s := by
    have answered : Stage.answer call a s =
        .ok () (s.log [.callback call a] (s.host.put call (.answer a))) :=
      Stage.answer_apply call a s
    rw [Control.final_ok answered]
    exact ⟨[.callback call a], Stage.effects_log _ _ s, rfl⟩
  pass n s := by
    have noted : Stage.note (.pass n) s = .ok () (s.log [.pass n] s.host) := rfl
    rw [Control.final_ok noted]
    exact inKeeping_log rfl rfl
  tell o n s := by
    unfold Control.final
    rw [Stage.tell_apply]
    cases called : Host.observe o n s.host with
    | ok _ h => exact inKeeping_log rfl (ofHost_ok called)
    | error p h => exact inKeeping_log rfl (ofHost_error called)

end Desk

end FilterDispatch
