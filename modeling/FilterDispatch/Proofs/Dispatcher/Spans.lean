import FilterDispatch.Proofs.Dispatcher.Draining

/-!
Times in which a dispatcher is only drained: outcomes arrive and are taken, by any of its calls, and
nobody panics.  Such a span is told by the outcomes that arrived in it and by what was delivered.
-/

namespace FilterDispatch.Dispatcher

variable {σ : Type} [Host σ] {engine : Engine} {d e : Dispatcher σ}

theorem step_eq_ok {op : Op σ} {r : Response} :
    step engine op d = (.ok r, e) ↔ perform engine op d = .ok r e := by
  unfold step
  cases perform engine op d with
  | ok s f => simp
  | error p f => simp

theorem processNext_waits (nothing : d.queue.tryNext = none) :
    processNext d = .ok (if d.inFlight = 0 then .idle else .pending) d := by
  rw [processNext_apply, WorkQueue.next, nothing]
  by_cases idle : d.queue.inFlight = 0 <;> simp [inFlight, idle]

theorem step_next_ok (accounted : d.queue.Accounted) {r : Response}
    (done : step engine .next d = (.ok r, e)) :
    r = .progress (if d.inFlight = 0 then .idle else if d.queue.finished = [] then .pending
      else .delivered) := by
  obtain ⟨p, t, went, last⟩ := Control.bind_eq_ok.mp (step_eq_ok.mp done)
  cases last
  congr 1
  cases found : d.queue.tryNext with
  | none =>
      rw [processNext_waits found] at went
      cases went
      simp [WorkQueue.tryNext_eq_none.mp found]
  | some taken =>
      obtain ⟨f, queue⟩ := taken
      obtain ⟨first, -⟩ := WorkQueue.tryNext_eq_some.mp found
      rw [processNext_of_some accounted found] at went
      obtain ⟨u, t, -, last⟩ := Control.bind_eq_ok.mp went
      cases last
      have busy : d.inFlight ≠ 0 := fun idle => by
        have none := accounted.idle_iff.mp idle
        simp [WorkQueue.outstanding, first] at none
      simp [busy, first]

theorem complete_ok_queue {f : Finished JobOutput} {u : Unit} (completed : complete f d = .ok u e) :
    e.queue = d.queue := by
  rw [← Control.final_ok completed, complete_queue]

theorem processAtMost_ok {n k : Nat} (done : processAtMost n d = .ok k e) :
    k = (deliveries n d).length := by
  induction n generalizing d k with
  | zero =>
      cases done
      rfl
  | succ n ih =>
      rw [processAtMost_succ] at done
      cases found : d.queue.tryNext with
      | none =>
          rw [found] at done
          cases done
          rw [deliveries_of_none _ found]
          rfl
      | some taken =>
          obtain ⟨f, queue⟩ := taken
          simp only [found] at done
          obtain ⟨u, t, completed, rest⟩ := Control.bind_eq_ok.mp done
          obtain ⟨m, t', went, last⟩ := Control.bind_eq_ok.mp rest
          cases last
          simp only [deliveries, found, completed, List.length_cons, ih went]

theorem Drained.left {n : Nat} {xs : List (Delivery σ)} (drained : Drained d xs none e)
    (all : xs = deliveries n d) : e.queue.finished = d.queue.finished.drop n := by
  induction n generalizing d xs with
  | zero =>
      cases all
      cases drained
      rfl
  | succ n ih =>
      cases drained with
      | done =>
          cases found : e.queue.tryNext with
          | none =>
              rw [WorkQueue.tryNext_eq_none.mp found]
              rfl
          | some taken =>
              simp only [deliveries, found] at all
              split at all <;> cases all
      | @next _ f queue t _ _ _ found completed rest =>
          simp only [deliveries, found, completed, List.cons.injEq, true_and] at all
          obtain ⟨first, -⟩ := WorkQueue.tryNext_eq_some.mp found
          rw [ih rest all, complete_ok_queue completed, first, List.drop_succ_cons]

theorem runFor_ok {n : Nat} {p : Progress} (accounted : d.queue.Accounted)
    (enough : d.queue.finished.length < n) (done : runFor n d = .ok p e) :
    p = if e.inFlight = 0 then .idle else .pending := by
  induction n generalizing d with
  | zero => exact absurd enough (Nat.not_lt_zero _)
  | succ n ih =>
      obtain ⟨q, t, went, rest⟩ := Control.bind_eq_ok.mp done
      cases found : d.queue.tryNext with
      | none =>
          rw [processNext_waits found] at went
          cases went
          by_cases idle : d.inFlight = 0
          · simp only [if_pos idle] at rest
            cases rest
            rw [if_pos idle]
          · simp only [if_neg idle] at rest
            cases rest
            rw [if_neg idle]
      | some taken =>
          obtain ⟨f, queue⟩ := taken
          obtain ⟨first, -⟩ := WorkQueue.tryNext_eq_some.mp found
          rw [processNext_of_some accounted found] at went
          obtain ⟨u, t', completed, last⟩ := Control.bind_eq_ok.mp went
          cases last
          have same : t.queue = queue := complete_ok_queue completed
          rw [first, List.length_cons] at enough
          exact ih (same ▸ (accounted.tryNext found).1) (by rw [same]; omega) rest

theorem step_ready_ok (accounted : d.queue.Accounted) {r : Response}
    (done : step engine .ready d = (.ok r, e)) :
    r = .delivered (Op.ready.deliveries d).length ∧ e.queue.finished = [] := by
  obtain ⟨n, t, went, last⟩ := Control.bind_eq_ok.mp (step_eq_ok.mp done)
  have drained := step_drained engine (show Op.drains .ready = true from rfl) accounted
  rw [done] at drained
  cases last
  refine ⟨congrArg Response.delivered (processAtMost_ok went), ?_⟩
  rw [drained.left rfl, List.drop_length]

theorem step_untilIdle_ok (accounted : d.queue.Accounted) {r : Response}
    (done : step engine .untilIdle d = (.ok r, e)) :
    r = .progress (if e.inFlight = 0 then .idle else .pending) ∧ e.queue.finished = [] := by
  obtain ⟨p, t, went, last⟩ := Control.bind_eq_ok.mp (step_eq_ok.mp done)
  have drained := step_drained engine (show Op.drains .untilIdle = true from rfl) accounted
  rw [done] at drained
  cases last
  refine ⟨congrArg Response.progress (runFor_ok accounted (Nat.lt_succ_self _) went), ?_⟩
  rw [drained.left rfl, List.drop_of_length_le (Nat.le_succ _)]

def Op.works : Op σ → Bool
  | .start _ | .finish _ => true
  | _ => false

theorem step_start (id : JobId) : step engine (.start id) d = (.ok .done, d.start id) := rfl

theorem step_finish (id : JobId) :
    step engine (.finish id) d = (.ok .done, d.finish engine id) := rfl

theorem step_works (engine : Engine) (accounted : d.queue.Accounted) {op : Op σ} (works : op.works = true) :
    ∃ queue arrived, step engine op d = (.ok .done, { d with queue }) ∧
      d.queue.Worked queue arrived := by
  cases op with
  | start id =>
      rw [step_start, Dispatcher.start]
      cases started : d.queue.start? id with
      | none => exact ⟨_, _, rfl, .refl _⟩
      | some queue => exact ⟨_, _, rfl, WorkQueue.worked_start? accounted started⟩
  | finish id =>
      rw [step_finish, Dispatcher.finish]
      cases ended : d.queue.finish? (Job.run engine) id with
      | none => exact ⟨_, _, rfl, .refl _⟩
      | some queue =>
          obtain ⟨f, worked⟩ := WorkQueue.worked_finish? accounted ended
          exact ⟨_, _, rfl, worked⟩
  | _ => cases works

theorem step_workers (engine : Engine) (accounted : d.queue.Accounted) {op : Op σ} (rests : op.works = false) :
    (step engine op d).2.queue.free = d.queue.free ∧
      (step engine op d).2.queue.running = d.queue.running := by
  have kept {P : Effect → Prop} {e : Dispatcher σ} (keeps : Keeps P d e) :
      e.queue.free = d.queue.free ∧ e.queue.running = d.queue.running := by
    rw [keeps.queue]
    exact ⟨rfl, rfl⟩
  have drained {op : Op σ} (drains : op.drains = true) :
      (step engine op d).2.queue.free = d.queue.free ∧
        (step engine op d).2.queue.running = d.queue.running := by
    rw [(step_drained engine drains accounted).delivers.queue.2]
    exact ⟨rfl, rfl⟩
  have called {op : Op σ} {c : Call} (call : op.call? = some c) :
      (step engine op d).2.queue.free = d.queue.free ∧
        (step engine op d).2.queue.running = d.queue.running := by
    have course : Course engine op d [] _ _ := course_call call d
    generalize (step engine op d).1 = r, (step engine op d).2 = e at course
    cases course with
    | answered => exact ⟨rfl, rfl⟩
    | posted => exact ⟨rfl, rfl⟩
    | failed _ fails => exact kept fails.keeps
    | checked => exact ⟨rfl, rfl⟩
    | aside none => exact absurd (call.symm.trans none) (by simp)
    | worked none => exact absurd (call.symm.trans none) (by simp)
    | drained none => exact absurd (call.symm.trans none) (by simp)
  cases op with
  | request => exact called rfl
  | socketUpgrade => exact called rfl
  | response => exact called rfl
  | rewrite => exact called rfl
  | document => exact ⟨rfl, rfl⟩
  | popup snapshot url frame =>
      rw [step_popup]
      exact kept (popup_keeps snapshot url frame d)
  | addObserver o => exact ⟨rfl, rfl⟩
  | removeObserver o => exact ⟨rfl, rfl⟩
  | changeHost change => exact ⟨rfl, rfl⟩
  | start id => cases rests
  | finish id => cases rests
  | next => exact drained rfl
  | ready => exact drained rfl
  | untilIdle => exact drained rfl
  | complete f =>
      rw [step_map (m := complete f) (f := fun _ => Response.done) rfl d, complete_queue]
      exact ⟨rfl, rfl⟩

omit [Host σ] in
theorem Orderly.worked (h : d.Orderly) {queue : WorkQueue Job JobOutput}
    {arrived : List (Finished JobOutput)} (worked : d.queue.Worked queue arrived) :
    ({ d with queue } : Dispatcher σ).Orderly where
  accounted := worked.accounted h.accounted
  distinct := h.distinct
  among id member := worked.jobs.mem_iff.mp (h.among id member)

/-- The states that a dispatcher comes to, whatever it is asked and however its workers go on. -/
inductive Reached (engine : Engine) (maxConcurrent : Nat) (host : σ) : Dispatcher σ → Prop
  | new {d : Dispatcher σ} : Dispatcher.new maxConcurrent host = .ok d →
      Reached engine maxConcurrent host d
  | step {d : Dispatcher σ} (op : Op σ) : Reached engine maxConcurrent host d →
      Reached engine maxConcurrent host (step engine op d).2
  | worked {d : Dispatcher σ} {queue arrived} : Reached engine maxConcurrent host d →
      d.queue.Worked queue arrived → Reached engine maxConcurrent host { d with queue }

namespace Reached

variable {maxConcurrent : Nat} {host : σ}

theorem orderly (reached : Reached engine maxConcurrent host d) : d.Orderly := by
  induction reached with
  | new made => exact new_orderly made
  | step op _ ih => exact step_orderly engine op ih
  | worked _ worked ih => exact ih.worked worked

theorem leads (reached : Reached engine maxConcurrent host d) (leads : Leads engine d e) :
    Reached engine maxConcurrent host e := by
  obtain ⟨ops, -, rfl⟩ := leads
  induction ops generalizing d with
  | nil => exact reached
  | cons op rest ih => exact ih (.step op reached)

/-- There is always a permit, free or with a job that runs. -/
theorem permits (reached : Reached engine maxConcurrent host d) :
    0 < d.queue.free + d.queue.running.length := by
  induction reached with
  | @new d made =>
      unfold Dispatcher.new at made
      cases queued : (WorkQueue.new maxConcurrent : Except Panic (WorkQueue Job JobOutput)) with
      | error p => rw [queued] at made; cases made
      | ok queue =>
          rw [queued] at made
          cases made
          obtain ⟨-, rfl⟩ := WorkQueue.new_eq_ok.mp queued
          exact Nat.lt_of_lt_of_le Nat.zero_lt_one (Nat.le_max_left 1 _)
  | @step d op reached ih =>
      cases works : op.works with
      | true =>
          obtain ⟨queue, arrived, moved, worked⟩ :=
            step_works engine reached.orderly.accounted works
          rw [moved]
          exact Nat.lt_of_lt_of_le ih worked.permits
      | false =>
          obtain ⟨free, running⟩ :=
            step_workers engine reached.orderly.accounted works
          rw [free, running]
          exact ih
  | worked _ worked ih => exact Nat.lt_of_lt_of_le ih worked.permits

end Reached

/-- A time in which nothing but this happens: the outcomes arrive, and those of the deliveries are
taken, by any of the calls that drain.  Nobody panics. -/
inductive Span (engine : Engine) :
    Dispatcher σ → List (Finished JobOutput) → List (Delivery σ) → Dispatcher σ → Prop
  | done (d : Dispatcher σ) : Span engine d [] [] d
  | worked {d e : Dispatcher σ} {queue arrived arrivals xs} : d.queue.Worked queue arrived →
      Span engine { d with queue } arrivals xs e → Span engine d (arrived ++ arrivals) xs e
  | drained {d t e : Dispatcher σ} {op : Op σ} {r arrivals xs} : op.drains = true →
      step engine op d = (.ok r, t) → Span engine t arrivals xs e →
      Span engine d arrivals (op.deliveries d ++ xs) e

theorem step_calm {op : Op σ} {r : Response} (drains : op.drains = true)
    (accounted : d.queue.Accounted) (stepped : step engine op d = (.ok r, e)) :
    Drained d (op.deliveries d) none e := by
  have drained := step_drained engine drains accounted
  rwa [stepped] at drained

theorem Orderly.stepped (h : d.Orderly) {op : Op σ} {r : Except Panic Response}
    (stepped : step engine op d = (r, e)) : e.Orderly := by
  have orderly := step_orderly engine op h
  rwa [stepped] at orderly

namespace Span

variable {arrivals : List (Finished JobOutput)} {xs ys : List (Delivery σ)} {f : Dispatcher σ}

theorem reached {maxConcurrent : Nat} {host : σ} (span : Span engine d arrivals xs e)
    (reached : Reached engine maxConcurrent host d) : Reached engine maxConcurrent host e := by
  induction span with
  | done d => exact reached
  | worked worked _ ih => exact ih (.worked reached worked)
  | @drained d t e op r arrivals xs _ stepped _ ih =>
      have led : (step engine op d).2 = t := by rw [stepped]
      exact ih (led ▸ .step op reached)

theorem trail (span : Span engine d arrivals xs e) (h : d.Orderly) : Trail d xs e := by
  induction span with
  | done d => exact .done (refl_of Alike d)
  | worked worked _ ih => exact .of_alike (alike_queue _ _) (ih (h.worked worked))
  | drained drains stepped _ ih =>
      exact (Trail.of_drained (step_calm drains h.accounted stepped) rfl).append
        (ih (h.stepped stepped))

theorem queue (span : Span engine d arrivals xs e) (h : d.Orderly) :
    d.queue.finished ++ arrivals = xs.map (·.outcome) ++ e.queue.finished ∧
      d.inFlight = xs.length + e.inFlight ∧ e.queue.nextId = d.queue.nextId := by
  induction span with
  | done d => exact ⟨List.append_nil _, (Nat.zero_add _).symm, rfl⟩
  | worked worked _ ih =>
      obtain ⟨order, count, ids⟩ := ih (h.worked worked)
      refine ⟨?_, worked.count.symm.trans count, ids.trans worked.ids⟩
      rw [← List.append_assoc, ← worked.arrives]
      exact order
  | @drained d t e op r arrivals xs drains stepped _ ih =>
      obtain ⟨order, count, ids⟩ := ih (h.stepped stepped)
      have delivers := (step_calm drains h.accounted stepped).delivers
      have counted := (delivers.counted h.accounted).1
      refine ⟨?_, ?_, ids.trans delivers.outstanding.2⟩
      · rw [delivers.queue.1, List.append_assoc, order, List.map_append, List.append_assoc]
      · rw [counted, count, List.length_append, Nat.add_assoc]

/-- As many deliveries while the same outcomes arrive are the same deliveries, and they lead to the same
dispatcher; how far its workers are by then is another matter. -/
theorem agree (span : Span engine d arrivals xs e) (other : Span engine d arrivals ys f)
    (h : d.Orderly) (level : e.inFlight = f.inFlight) :
    xs.map Delivery.seen = ys.map Delivery.seen ∧
      f = { e with queue := f.queue.withWorkers e.queue } := by
  obtain ⟨order, count, ids⟩ := span.queue h
  obtain ⟨order', count', ids'⟩ := other.queue h
  have lengths : (xs.map (·.outcome)).length = (ys.map (·.outcome)).length := by
    simp only [List.length_map]
    omega
  obtain ⟨outcomes, left⟩ := List.append_inj (order.symm.trans order') lengths
  obtain ⟨seen, alike⟩ := (span.trail h).agree (other.trail h) (refl_of Alike d) outcomes
  refine ⟨seen, ?_⟩
  have queues : f.queue = f.queue.withWorkers e.queue :=
    WorkQueue.eq_withWorkers (ids'.trans ids.symm) level.symm left.symm
  exact alike.eq.trans (congrArg (fun queue => { e with queue }) queues)

end Span

/-- The workers' moves and the calls of a run in which nobody panics are a span. -/
theorem span_run {ops : List (Op σ)} (h : d.Orderly)
    (only : ∀ op ∈ ops, op.works = true ∨ op.drains = true)
    (calm : ∀ r ∈ (run engine ops d).1, ∃ v, r = .ok v) : ∃ arrivals,
      Span engine d arrivals ((strides engine ops d).flatMap Stride.deliveries) (run engine ops d).2 := by
  induction ops generalizing d with
  | nil => exact ⟨[], .done d⟩
  | cons op rest ih =>
      obtain ⟨v, fine⟩ := calm _ List.mem_cons_self
      have stepped : step engine op d = (.ok v, (step engine op d).2) := Prod.ext fine rfl
      obtain ⟨arrivals, span⟩ := ih (h.stepped stepped)
        (fun later member => only later (List.mem_cons_of_mem _ member))
        (fun r member => calm r (List.mem_cons_of_mem _ member))
      cases works : op.works with
      | true =>
          obtain ⟨queue, arrived, moved, worked⟩ := step_works engine h.accounted works
          have none : op.deliveries d = [] :=
            deliveries_of_not_drains (by cases op <;> first | rfl | cases works) d
          refine ⟨arrived ++ arrivals, ?_⟩
          rw [run_cons, strides, List.flatMap_cons, Stride.deliveries, stride]
          simp only [none, List.nil_append]
          rw [moved] at span ⊢
          exact .worked worked span
      | false =>
          have drains := (only op List.mem_cons_self).resolve_left (by simp [works])
          exact ⟨arrivals, .drained drains stepped span⟩

/-- While a job has not ended, a worker can move, and no worker moves for ever. -/
theorem can_work (permits : 0 < d.queue.free + d.queue.running.length)
    (accounted : d.queue.Accounted) (left : d.queue.waiting ≠ [] ∨ d.queue.running ≠ []) :
    ∃ op : Op σ, op.works = true ∧ (step engine op d).2.queue.unended < d.queue.unended := by
  obtain ⟨id, queue, started | ended⟩ := WorkQueue.can_work (Job.run engine) permits left
  · refine ⟨.start id, rfl, ?_⟩
    rw [step_start, Dispatcher.start, started]
    exact WorkQueue.unended_start? accounted started
  · refine ⟨.finish id, rfl, ?_⟩
    rw [step_finish, Dispatcher.finish, ended]
    exact WorkQueue.unended_finish? accounted ended

/-- What there is to say of draining from a state on. -/
structure Drains (engine : Engine) (d : Dispatcher σ) : Prop where
  /-- Any calls that drain, with the workers' moves between them, make up a span. -/
  spans : ∀ ops : List (Op σ), (∀ op ∈ ops, op.works = true ∨ op.drains = true) →
    (∀ r ∈ (run engine ops d).1, ∃ v, r = .ok v) → ∃ arrivals,
      Span engine d arrivals ((strides engine ops d).flatMap Stride.deliveries) (run engine ops d).2
  /-- Outcomes are delivered as they arrive, and nothing happens but their deliveries. -/
  ordered : ∀ arrivals xs e, Span engine d arrivals xs e →
    d.queue.finished ++ arrivals = xs.map (·.outcome) ++ e.queue.finished ∧
      e.stage.effects = d.stage.effects ++ xs.flatMap Delivery.effects ∧
      d.inFlight = xs.length + e.inFlight
  agree : ∀ arrivals xs e ys f, Span engine d arrivals xs e → Span engine d arrivals ys f →
    e.inFlight = f.inFlight → xs.map Delivery.seen = ys.map Delivery.seen ∧
      f = { e with queue := f.queue.withWorkers e.queue }
  next : ∀ r e, step engine .next d = (.ok r, e) →
    r = .progress (if d.inFlight = 0 then .idle else if d.queue.finished = [] then .pending
      else .delivered)
  ready : ∀ r e, step engine .ready d = (.ok r, e) →
    r = .delivered (Op.ready.deliveries d).length ∧
      (Op.ready.deliveries d).length ≤ d.inFlight ∧ e.queue.finished = []
  /-- Once all jobs have ended, nothing is in flight, and all that was has been delivered. -/
  untilIdle : ∀ arrivals xs e r f, Span engine d arrivals xs e →
    step engine .untilIdle e = (.ok r, f) →
    if e.queue.waiting = [] ∧ e.queue.running = [] then
      r = .progress .idle ∧ (xs ++ Op.untilIdle.deliveries e).length = d.inFlight ∧ f.inFlight = 0
    else
      r = .progress .pending ∧ ∃ op : Op σ, op.works = true ∧
        (step engine op f).2.queue.unended < f.queue.unended

theorem Reached.drains {maxConcurrent : Nat} {host : σ}
    (reached : Reached engine maxConcurrent host d) : Drains engine d where
  spans ops only calm := span_run reached.orderly only calm
  ordered arrivals xs e span := by
    obtain ⟨order, count, -⟩ := span.queue reached.orderly
    exact ⟨order, (span.trail reached.orderly).effects, count⟩
  agree arrivals xs e ys f span other level := span.agree other reached.orderly level
  next r e stepped := step_next_ok reached.orderly.accounted stepped
  ready r e stepped := by
    have accounted := reached.orderly.accounted
    obtain ⟨said, empty⟩ := step_ready_ok accounted stepped
    have counted := ((step_calm rfl accounted stepped).delivers.counted accounted).1
    exact ⟨said, by omega, empty⟩
  untilIdle arrivals xs e r f span stepped := by
    have there := span.reached reached
    have accounted := there.orderly.accounted
    have after := (there.orderly.stepped stepped).accounted
    have delivers := (step_calm rfl accounted stepped).delivers
    obtain ⟨said, empty⟩ := step_untilIdle_ok accounted stepped
    have waiting : f.queue.waiting = e.queue.waiting := by rw [delivers.queue.2]
    have running : f.queue.running = e.queue.running := by rw [delivers.queue.2]
    have idle : f.inFlight = 0 ↔ e.queue.waiting = [] ∧ e.queue.running = [] := by
      rw [inFlight, after.idle_iff, WorkQueue.outstanding, empty, waiting, running]
      simp
    split
    · next ended =>
        have none := idle.mpr ended
        have count := (span.queue reached.orderly).2.1
        have counted := (delivers.counted accounted).1
        refine ⟨said.trans (by rw [if_pos none]), ?_, none⟩
        rw [List.length_append]
        omega
    · next left =>
        have permits : 0 < f.queue.free + f.queue.running.length := by
          rw [delivers.queue.2]
          exact there.permits
        refine ⟨said.trans (by rw [if_neg fun none => left (idle.mp none)]), ?_⟩
        exact can_work permits after (by rw [waiting, running]; exact not_and_or.mp left)

end FilterDispatch.Dispatcher
