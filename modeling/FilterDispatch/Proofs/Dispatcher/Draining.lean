import FilterDispatch.Proofs.Dispatcher.Custody
import FilterDispatch.Proofs.Queue.Workers

/-!
All ways of draining agree.  What a delivery does depends on its outcome and on what is kept, not on
the queue, and outcomes are taken in the order in which they arrive.  So it makes no difference in how
many calls, or by which, they are taken, nor how far the workers are at each of them.
-/

namespace FilterDispatch.Dispatcher

variable {σ : Type}

/-- The dispatchers differ in their queues at most. -/
structure Alike (d e : Dispatcher σ) : Prop where
  observers : e.observers = d.observers
  pending : e.pending = d.pending
  stage : e.stage = d.stage

instance : IsPreorder (Dispatcher σ) Alike where
  refl _ := ⟨rfl, rfl, rfl⟩
  trans _ _ _ first later :=
    ⟨later.observers.trans first.observers, later.pending.trans first.pending,
      later.stage.trans first.stage⟩

theorem Alike.symm {d e : Dispatcher σ} (alike : Alike d e) : Alike e d :=
  ⟨alike.observers.symm, alike.pending.symm, alike.stage.symm⟩

theorem alike_queue (d : Dispatcher σ) (queue : WorkQueue Job JobOutput) :
    Alike d { d with queue } :=
  ⟨rfl, rfl, rfl⟩

theorem Alike.eq {d e : Dispatcher σ} (alike : Alike d e) : e = { d with queue := e.queue } := by
  obtain ⟨observers, pending, stage⟩ := alike
  cases d
  cases e
  cases observers
  cases pending
  cases stage
  rfl

/-- What it comes to and what it does are the same with any queue. -/
def Offqueue {α : Type} (m : Control (Dispatcher σ) α) : Prop :=
  ∀ (d e : Dispatcher σ) (a : α), m d = .ok a e → ∀ queue : WorkQueue Job JobOutput,
    m { d with queue } = .ok a { e with queue }

theorem Offqueue.bind {α β : Type} {m : Control (Dispatcher σ) α}
    {f : α → Control (Dispatcher σ) β} (first : Offqueue m) (rest : ∀ a, Offqueue (f a)) :
    Offqueue (m >>= f) := by
  intro d e b done queue
  obtain ⟨a, t, went, last⟩ := Control.bind_eq_ok.mp done
  exact Control.bind_eq_ok.mpr ⟨a, _, first d t a went queue, rest a t e b last queue⟩

theorem offqueue_pure {α : Type} (a : α) : Offqueue (pure a : Control (Dispatcher σ) α) := by
  intro d e b done queue
  cases done
  rfl

theorem offqueue_onStage {α : Type} (m : Control (Stage σ) α) :
    Offqueue (onStage m : Control (Dispatcher σ) α) := by
  intro d e a done queue
  rw [onStage_apply] at done ⊢
  dsimp only
  cases went : m d.stage with
  | ok b s =>
      rw [went] at done
      cases done
      rfl
  | error p s =>
      rw [went] at done
      cases done

theorem offqueue_takePending (id : JobId) :
    Offqueue (takePending id : Control (Dispatcher σ) (Option Pending)) := by
  intro d e found done queue
  cases done
  rfl

variable [Host σ]

theorem offqueue_announce (n : Notification) :
    Offqueue (announce n : Control (Dispatcher σ) Unit) := by
  refine (offqueue_onStage _).bind fun _ => ?_
  intro d e a done queue
  dsimp only at done ⊢
  split at done
  · cases done
    rfl
  · cases done

theorem offqueue_reply (entry : Pending) (out : Except JobError JobOutput) :
    Offqueue (reply entry out : Control (Dispatcher σ) Unit) := by
  unfold reply
  cases entry.reply? out with
  | none => exact offqueue_pure ()
  | some told => exact offqueue_onStage _

theorem offqueue_report (entry : Pending) (out : Except JobError JobOutput) :
    Offqueue (report entry out : Control (Dispatcher σ) Unit) := by
  unfold report
  cases entry.report? out with
  | none => exact offqueue_pure ()
  | some told =>
      refine (offqueue_onStage _).bind fun found => ?_
      cases found with
      | none => exact offqueue_pure ()
      | some live => exact offqueue_announce _

theorem offqueue_complete (f : Finished JobOutput) :
    Offqueue (complete f : Control (Dispatcher σ) Unit) := by
  refine (offqueue_takePending f.id).bind fun found => ?_
  cases found with
  | none => exact offqueue_pure ()
  | some entry =>
      simp only [settle_eq]
      exact (offqueue_reply entry f.output).bind fun _ => offqueue_report entry f.output

theorem complete_alike {f : Finished JobOutput} {d d' e : Dispatcher σ} (alike : Alike d d')
    (completed : complete f d = .ok () e) : complete f d' = .ok () { e with queue := d'.queue } := by
  rw [alike.eq]
  exact offqueue_complete f d e () completed d'.queue

def Delivery.seen (x : Delivery σ) : Finished JobOutput × List Effect :=
  (x.outcome, x.effects)

/-- One delivery follows on the other, and the queue is anything in between. -/
inductive Trail : Dispatcher σ → List (Delivery σ) → Dispatcher σ → Prop
  | done {d e} : Alike d e → Trail d [] e
  | next {d f before after xs e} : Alike d before → complete f before = .ok () after →
      Trail after xs e → Trail d (⟨f, before, after⟩ :: xs) e

namespace Trail

variable {d d' e e' : Dispatcher σ} {xs ys : List (Delivery σ)}

theorem of_alike (alike : Alike d d') (trail : Trail d' xs e) : Trail d xs e := by
  cases trail with
  | done still => exact .done (trans_of Alike alike still)
  | next still completed rest => exact .next (trans_of Alike alike still) completed rest

theorem append (trail : Trail d xs e) (more : Trail e ys e') : Trail d (xs ++ ys) e' := by
  induction trail with
  | done alike => exact of_alike alike more
  | next alike completed rest ih => exact .next alike completed (ih more)

theorem of_drained {r : Option Panic} (drained : Drained d xs r e) (calm : r = none) :
    Trail d xs e := by
  induction drained with
  | done d => exact .done (refl_of Alike d)
  | next found completed rest ih => exact .next (alike_queue _ _) completed (ih calm)
  | panicked => cases calm

/-- The same outcomes, delivered to dispatchers that are alike, do the same. -/
theorem agree (trail : Trail d xs e) (other : Trail d' ys e') (alike : Alike d d')
    (same : xs.map (·.outcome) = ys.map (·.outcome)) :
    xs.map Delivery.seen = ys.map Delivery.seen ∧ Alike e e' := by
  induction trail generalizing d' ys with
  | done still =>
      cases other with
      | done still' =>
          exact ⟨rfl, trans_of Alike still.symm (trans_of Alike alike still')⟩
      | next => cases same
  | @next d f before after xs e still completed rest ih =>
      cases other with
      | done => cases same
      | @next _ g before' after' ys _ still' completed' rest' =>
          simp only [List.map_cons, List.cons.injEq] at same
          obtain ⟨rfl, same⟩ := same
          have here : Alike before before' :=
            trans_of Alike still.symm (trans_of Alike alike still')
          have again := complete_alike here completed
          rw [completed'] at again
          obtain rfl : after' = { after with queue := before'.queue } := by
            injection again
          obtain ⟨seen, last⟩ := ih rest' (alike_queue _ _) same
          have effects : (⟨f, before', { after with queue := before'.queue }⟩ : Delivery σ).effects =
              (⟨f, before, after⟩ : Delivery σ).effects := by
            simp only [Delivery.effects, effectsSince, here.stage]
          simp only [List.map_cons, seen, Delivery.seen, effects, last, and_self]

theorem effects (trail : Trail d xs e) :
    e.stage.effects = d.stage.effects ++ xs.flatMap Delivery.effects := by
  induction trail with
  | done alike => simp [alike.stage]
  | @next d f before after xs e still completed rest ih =>
      obtain ⟨new, grown, -⟩ := complete_summary f before
      rw [Control.final_ok completed] at grown
      have own : Delivery.effects ⟨f, before, after⟩ = new := effectsSince_eq grown
      rw [ih, grown, List.flatMap_cons, own, still.stage, List.append_assoc]

end Trail

end FilterDispatch.Dispatcher
