import FilterDispatch.Proofs.Dispatcher.Runs
import FilterDispatch.Proofs.Observer.Passes

/-!
Registrations.  Besides being added and removed they change when a pass begins, and then only by
losing observers that are dead; a panic in the pass changes nothing of that.
-/

namespace FilterDispatch

/-- The host in which the pass over a delivery's report begins, if there is one. -/
def Pending.passStart? {σ : Type} [Host σ] (entry : Pending) (out : Except JobError JobOutput)
    (h : σ) : Option σ :=
  match entry.replied out h with
  | .error _ _ => none
  | .ok _ after =>
    match entry.report? out with
    | none => none
    | some (frame, _) =>
      match Host.resolve frame after with
      | .ok (some _) k => some k
      | _ => none

def Sight.passStart? {σ : Type} [Host σ] (snapshot : Snapshot) (url : Url) (frame : FrameId)
    (h : σ) : Option σ :=
  match Sight.look frame h with
  | .ok (some s) after =>
    match Host.classifyInline (s.popupCall snapshot url) after with
    | .ok c k => (s.popupMatched? url c).map fun _ => k
    | .error _ _ => none
  | _ => none

namespace ObserverList

variable {σ : Type} [Host σ]

/-- The registrations after passes that began with these hosts. -/
def sweep (l : ObserverList) (starts : List σ) : ObserverList :=
  starts.foldl (fun l h => l.prune (Host.owned h)) l

theorem sweep_append (l : ObserverList) (first later : List σ) :
    l.sweep (first ++ later) = (l.sweep first).sweep later :=
  List.foldl_append

theorem sweep_sublist (l : ObserverList) (starts : List σ) :
    (l.sweep starts).entries.Sublist l.entries := by
  induction starts generalizing l with
  | nil => exact List.Sublist.refl _
  | cons h rest ih => exact (ih (l.prune (Host.owned h))).trans List.filter_sublist

theorem mem_sweep {l : ObserverList} {starts : List σ} {o : ObserverId} :
    o ∈ (l.sweep starts).entries ↔ o ∈ l.entries ∧ ∀ h ∈ starts, l.alive (Host.owned h) o := by
  induction starts generalizing l with
  | nil => simp [sweep]
  | cons h rest ih =>
      change o ∈ ((l.prune (Host.owned h)).sweep rest).entries ↔ _
      rw [ih]
      simp only [prune, alive, List.mem_filter, List.mem_cons, forall_eq_or_imp, and_assoc]

end ObserverList

namespace Dispatcher

variable {σ : Type} [Host σ]

theorem settle_observers (entry : Pending) (out : Except JobError JobOutput) (d : Dispatcher σ) :
    (Control.final (settle entry out) d).observers =
      d.observers.sweep (entry.passStart? out d.stage.host).toList := by
  have ways := settled entry out d
  unfold Control.final
  generalize settle entry out d = outcome at ways ⊢
  cases ways with
  | callbackPanics replied => simp only [Pending.passStart?, replied]; rfl
  | undecided replied reports => simp only [Pending.passStart?, replied, reports]; rfl
  | hostPanics replied reports resolved =>
      simp only [Pending.passStart?, replied, reports, resolved]; rfl
  | frameGone replied reports resolved =>
      simp only [Pending.passStart?, replied, reports, resolved]; rfl
  | reported replied reports resolved all effects =>
      simp only [Pending.passStart?, replied, reports, resolved]; rfl
  | observerPanics replied reports resolved first effects =>
      simp only [Pending.passStart?, replied, reports, resolved]; rfl

def passStart? (f : Finished JobOutput) (d : Dispatcher σ) : Option σ :=
  (d.pending.lookup f.id).bind fun entry => entry.passStart? f.output d.stage.host

theorem complete_observers (f : Finished JobOutput) (d : Dispatcher σ) :
    (Control.final (complete f) d).observers = d.observers.sweep (d.passStart? f).toList := by
  unfold passStart?
  cases known : d.pending.lookup f.id with
  | none =>
      rw [Control.final_ok (complete_of_none known)]
      rfl
  | some entry =>
      rw [Control.final_congr (complete_of_some known)]
      exact settle_observers entry f.output (d.forgetting f.id)

def Delivery.passStart? (x : Delivery σ) : Option σ :=
  x.before.passStart? x.outcome

theorem Delivers.observers {d e : Dispatcher σ} {xs : List (Delivery σ)}
    (delivers : Delivers d xs e) :
    e.observers = d.observers.sweep (xs.filterMap Delivery.passStart?) := by
  induction delivers with
  | done d => rfl
  | @next d f queue rest e found delivers ih =>
      rw [ih, complete_observers, ← ObserverList.sweep_append]
      simp only [List.filterMap_cons, Delivery.passStart?]
      cases ({ d with queue } : Dispatcher σ).passStart? f with
      | none => rfl
      | some h => rfl

theorem popup_observers (snapshot : Snapshot) (url : Url) (frame : FrameId) (d : Dispatcher σ) :
    (Control.final (popup snapshot url frame) d).observers =
      d.observers.sweep (Sight.passStart? snapshot url frame d.stage.host).toList := by
  have ways := popped snapshot url frame d
  unfold Control.final
  generalize popup snapshot url frame d = outcome at ways ⊢
  cases ways with
  | hostPanics looked first => simp only [Sight.passStart?, looked]; rfl
  | frameGone looked => simp only [Sight.passStart?, looked]; rfl
  | enginePanics looked ruled => simp only [Sight.passStart?, looked, ruled]; rfl
  | undecided looked ruled reports => simp only [Sight.passStart?, looked, ruled, reports]; rfl
  | reported looked ruled reports same effects =>
      simp only [Sight.passStart?, looked, ruled, reports]; rfl
  | observerPanics looked ruled reports first effects cause =>
      simp only [Sight.passStart?, looked, ruled, reports]; rfl

theorem place_observers (c : Call) (d : Dispatcher σ) :
    (Control.final (place c) d).observers = d.observers := by
  have ways := called_cases c d
  unfold Control.final
  generalize place c d = outcome at ways ⊢
  cases ways <;> rfl

namespace Op

omit [Host σ] in
/-- What an operation itself does to the registrations. -/
def register (op : Op σ) (l : ObserverList) : ObserverList :=
  match op with
  | .addObserver o => (l.add o).2
  | .removeObserver o => (l.remove o).2
  | _ => l

/-- The hosts in which the passes of an operation begin. -/
def passStarts (op : Op σ) (d : Dispatcher σ) : List σ :=
  match op with
  | .popup snapshot url frame => (Sight.passStart? snapshot url frame d.stage.host).toList
  | .complete f => (d.passStart? f).toList
  | _ => (op.deliveries d).filterMap Delivery.passStart?

end Op

/-- Whichever way an operation ends, registrations are lost to its passes only. -/
theorem step_observers (engine : Engine) (op : Op σ) {d : Dispatcher σ}
    (accounted : d.queue.Accounted) :
    (step engine op d).2.observers = (op.register d.observers).sweep (op.passStarts d) := by
  cases mine : op.call? with
  | some c =>
      have same : (op.register d.observers).sweep (op.passStarts d) = d.observers := by
        cases op <;> first | rfl | cases mine
      have performed := perform_call engine mine d
      rw [same, step_final]
      cases refusal : op.refusal? with
      | some p =>
          rw [refusal] at performed
          rw [Control.final_error performed]
      | none =>
          simp only [refusal] at performed
          rw [Control.final_congr performed]
          exact (congrArg observers (Control.final_map (place c) (fun _ => Response.done) d)).trans
            (place_observers c d)
  | none =>
      cases op with
      | popup snapshot url frame =>
          rw [step_popup]
          exact popup_observers snapshot url frame d
      | complete f =>
          rw [step_map (m := complete f) (f := fun _ => Response.done) rfl d]
          exact complete_observers f d
      | next => exact (step_drained engine rfl accounted).delivers.observers
      | ready => exact (step_drained engine rfl accounted).delivers.observers
      | untilIdle => exact (step_drained engine rfl accounted).delivers.observers
      | start id =>
          change (d.start id).observers = d.observers
          unfold Dispatcher.start
          cases d.queue.start? id <;> rfl
      | finish id =>
          change (d.finish engine id).observers = d.observers
          unfold Dispatcher.finish
          cases d.queue.finish? (Job.run engine) id <;> rfl
      | document => rfl
      | addObserver o => rfl
      | removeObserver o => rfl
      | changeHost change => rfl
      | _ => cases mine

theorem step_distinct (engine : Engine) (op : Op σ) {d : Dispatcher σ}
    (accounted : d.queue.Accounted) (distinct : d.observers.entries.Nodup) :
    (step engine op d).2.observers.entries.Nodup := by
  rw [step_observers engine op accounted]
  refine (ObserverList.sweep_sublist _ _).nodup ?_
  cases op with
  | addObserver o => exact ObserverList.add_nodup o distinct
  | removeObserver o => exact distinct.filter _
  | _ => exact distinct

end Dispatcher

end FilterDispatch
