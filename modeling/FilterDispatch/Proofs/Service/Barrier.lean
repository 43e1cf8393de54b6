import FilterDispatch.Proofs.Service.OneAnswer
import FilterDispatch.Proofs.Service.Order

/-!
Flushes as barriers.  A flush is answered at the end of a turn that leaves nothing in flight; by
then the commands that entered the channel before it have been handled, and all that they posted has
been delivered.
-/

namespace FilterDispatch.Service

variable {σ : Type} [Host σ] {engine : Engine} {ms : List (Move σ)} {s₀ s t u w : Service σ}

/-- What the loop does in a turn before it looks for flushes. -/
inductive Turn (engine : Engine) (s : Service σ) : Move σ → Service σ → Prop
  | command {x rest} : s.channel = x :: rest →
      Turn engine s .takeCommand (({ s with channel := rest }).handle x)
  | outcome : s.dispatcher.queue.finished ≠ [] → Turn engine s .takeOutcome (s.operate engine .next)

/-- The handling of a command posted this job. -/
def Posted (engine : Engine) (s₀ : Service σ) (ms : List (Move σ)) (id : JobId) : Prop :=
  ∃ before after u x rest, ms = before ++ .takeCommand :: after ∧ run? engine before s₀ = some u ∧
    u.channel = x :: rest ∧ id ∉ u.dispatcher.queue.outstanding ∧
      id ∈ (({ u with channel := rest }).handle x).dispatcher.queue.outstanding

/-- The loop takes the outcome of a job and delivers it to the end: the callback returns, and if
anything is to be reported, each observer of the pass is told of it and returns. -/
structure Delivers (id : JobId) (s t : Service σ) (f : Finished JobOutput)
    (queue : WorkQueue Job JobOutput) (entry : Pending) (d : Dispatcher (Desk σ)) : Prop where
  found : s.dispatcher.queue.tryNext = some (f, queue)
  own : f.id = id
  known : s.dispatcher.pending.lookup id = some entry
  completed : Dispatcher.complete f { s.dispatcher with queue } = .ok () d
  settled : Dispatcher.Settled entry f.output
    (({ s.dispatcher with queue }).forgetting id) (.ok () d)
  led : t = { s with dispatcher := d }

/-- The outcome of this job was delivered in a turn of its own. -/
def Delivered (engine : Engine) (s₀ : Service σ) (ms : List (Move σ)) (id : JobId) : Prop :=
  ∃ before after u w f queue entry d, ms = before ++ .takeOutcome :: after ∧
    run? engine before s₀ = some u ∧ Turn engine u .takeOutcome w ∧
      Delivers id u w f queue entry d

theorem operate_done (engine : Engine) (op : Dispatcher.Op (Desk σ)) (acts : op.changesHost = false)
    {call : CallId} (done : (call, .done) ∈ (s.operate engine op).desk.replies) :
    (call, .done) ∈ s.desk.replies := by
  obtain ⟨new, -, replies⟩ := Dispatcher.perform_along Desk.kept engine acts s.dispatcher
  rw [← Dispatcher.step_final] at replies
  rw [operate_eq, desk, replies] at done
  rcases List.mem_append.mp done with now | before
  · obtain ⟨a, same, -⟩ := mem_repliesOf.mp now
    cases same
  · exact before

theorem handle_done (engine : Engine) {x : Sent} {call : CallId}
    (done : (call, .done) ∈ (s.handle x).desk.replies) : (call, .done) ∈ s.desk.replies := by
  have handled := handle_cases engine x s
  generalize s.handle x = t at handled done
  cases handled with
  | operated own acts => exact operate_done engine _ acts done
  | @answered snapshot url frame =>
      rcases List.mem_cons.mp done with same | before
      · cases same
      · exact operate_done engine (.popup snapshot url frame) rfl before
  | @panicked snapshot url frame =>
      exact operate_done engine (.popup snapshot url frame) rfl done
  | waits => exact done
  | stops => exact done

theorem handle_waiters (engine : Engine) (x : Sent) (s : Service σ) :
    s.flushWaiters <+: (s.handle x).flushWaiters := by
  have handled := handle_cases engine x s
  generalize s.handle x = t at handled
  cases handled with
  | operated own =>
      rewrite [operate_eq]
      exact List.prefix_refl _
  | @answered snapshot url frame =>
      change _ <+: (s.operate engine _).flushWaiters
      rewrite [operate_eq]
      exact List.prefix_refl _
  | panicked =>
      rewrite [operate_eq]
      exact List.prefix_refl _
  | waits => exact List.prefix_append _ _
  | stops => exact List.prefix_refl _

omit [Host σ] in
theorem answerFlushes_queue (s : Service σ) :
    s.answerFlushes.dispatcher.queue = s.dispatcher.queue := by
  rw [answerFlushes_eq]
  split <;> rfl

namespace Turn

variable {m : Move σ}

theorem waiters (turn : Turn engine s m w) : s.flushWaiters <+: w.flushWaiters := by
  cases turn with
  | @command x rest channel => exact handle_waiters engine x { s with channel := rest }
  | outcome there =>
      rewrite [operate_eq]
      exact List.prefix_refl _

theorem done (turn : Turn engine s m w) {call : CallId} (done : (call, .done) ∈ w.desk.replies) :
    (call, .done) ∈ s.desk.replies := by
  cases turn with
  | @command x rest channel => exact handle_done engine (s := { s with channel := rest }) done
  | outcome there => exact operate_done engine .next rfl done

theorem ledger (turn : Turn engine s m w) (h : s.dispatcher.InStep engine) (ledger : s.Ledger []) :
    w.Ledger [] := by
  cases turn with
  | command channel => exact Ledger.take h ledger channel
  | outcome there => exact ledger.operate h rfl rfl rfl

end Turn

/-- What a move beside the loop leaves of flushes and jobs. -/
structure Beside (s t : Service σ) : Prop where
  waiters : t.flushWaiters = s.flushWaiters
  running : t.isRunning = true → s.isRunning = true
  jobs : s.dispatcher.queue.outstanding.Perm t.dispatcher.queue.outstanding

omit [Host σ] in
theorem Beside.of_queue (waiters : t.flushWaiters = s.flushWaiters)
    (running : t.isRunning = true → s.isRunning = true)
    (queue : t.dispatcher.queue = s.dispatcher.queue) : Beside s t :=
  ⟨waiters, running, by rw [queue]⟩

theorem start_beside (h : s.dispatcher.InStep engine) (id : JobId) :
    Beside s (s.operate engine (.start id)) := by
  rw [operate_start]
  refine ⟨rfl, fun running => running, ?_⟩
  unfold Dispatcher.start
  cases started : s.dispatcher.queue.start? id with
  | none => exact .refl _
  | some queue => exact WorkQueue.outstanding_start? h.accounted started

theorem finish_beside (h : s.dispatcher.InStep engine) (id : JobId) :
    Beside s (s.operate engine (.finish id)) := by
  rw [operate_finish]
  refine ⟨rfl, fun running => running, ?_⟩
  unfold Dispatcher.finish
  cases done : s.dispatcher.queue.finish? (Job.run engine) id with
  | none => exact .refl _
  | some queue => exact WorkQueue.outstanding_finish? h.accounted done

/-- A move is a turn of the loop, with flushes answered at its end, or it goes beside the loop. -/
theorem Step.turn_or_beside {m : Move σ} (step : Step engine s m t)
    (h : s.dispatcher.InStep engine) :
    (s.isRunning = true ∧ ∃ w, Turn engine s m w ∧ t = w.answerFlushes) ∨ Beside s t := by
  cases step with
  | @send call command fresh some =>
      refine .inr (.of_queue ?_ ?_ ?_)
      · rw [Service.send]
        split <;> rfl
      · rw [send_isRunning]
        exact id
      · rw [Service.send]
        split <;> rfl
  | abandon open' member => exact .inr (.of_queue rfl id rfl)
  | cloneHandle some => exact .inr (.of_queue rfl id rfl)
  | dropHandle some => exact .inr (.of_queue rfl id rfl)
  | enqueue running arriving room =>
      refine .inr (.of_queue ?_ (fun _ => running) ?_)
      · rw [enter]
        split <;> rfl
      · rw [enter]
        split <;> rfl
  | takeCommand running channel => exact .inl ⟨running, _, .command channel, rfl⟩
  | takeOutcome running there => exact .inl ⟨running, _, .outcome there, rfl⟩
  | hangUp => exact .inr (.of_queue rfl (fun running => by cases of_decide_eq_true running) rfl)
  | start => exact .inr (start_beside h _)
  | finish => exact .inr (finish_beside h _)
  | changeHost => exact .inr (.of_queue rfl id rfl)

theorem Step.done {m : Move σ} (step : Step engine s m t) {call : CallId}
    (done : (call, .done) ∈ t.desk.replies) : (call, .done) ∈ s.desk.replies ∨
      (∃ x ∈ s.arriving, x.call = call ∧ x.command.wantsReply = false) ∨
      ∃ w, Turn engine s m w ∧ t = w.answerFlushes ∧
        (w.isRunning = true ∧ w.dispatcher.inFlight = 0) ∧ call ∈ w.flushWaiters := by
  have ofTurn {w : Service σ} (turn : Turn engine s m w) (same : t = w.answerFlushes) :
      (call, .done) ∈ s.desk.replies ∨
      (∃ x ∈ s.arriving, x.call = call ∧ x.command.wantsReply = false) ∨
      ∃ w, Turn engine s m w ∧ t = w.answerFlushes ∧
        (w.isRunning = true ∧ w.dispatcher.inFlight = 0) ∧ call ∈ w.flushWaiters := by
    have there := done
    rw [same, answerFlushes_eq] at there
    split at there
    · next idle =>
        rcases List.mem_append.mp there with now | before
        · obtain ⟨waiter, waits, answer⟩ := List.mem_map.mp (List.mem_reverse.mp now)
          cases answer
          exact .inr (.inr ⟨w, turn, same, idle, waits⟩)
        · exact .inl (turn.done before)
    · exact .inl (turn.done there)
  cases step with
  | send fresh some =>
      rw [Service.send] at done
      split at done <;> exact .inl done
  | abandon open' member => exact .inl done
  | cloneHandle some => exact .inl done
  | dropHandle some => exact .inl done
  | @enqueue x rest running arriving room =>
      rw [enter] at done
      split at done
      · exact .inl done
      · next silent =>
          rcases List.mem_cons.mp done with now | before
          · cases now
            exact .inr (.inl ⟨x, by simp [arriving], rfl, by simpa using silent⟩)
          · exact .inl before
  | takeCommand running channel => exact ofTurn (.command channel) rfl
  | takeOutcome running there => exact ofTurn (.outcome there) rfl
  | hangUp => exact .inl done
  | @start id => exact .inl (operate_done engine (.start id) rfl done)
  | @finish id => exact .inl (operate_done engine (.finish id) rfl done)
  | changeHost => exact .inl done

theorem operate_outstanding (h : s.dispatcher.InStep engine) (op : Dispatcher.Op (Desk σ))
    (own : op.injects = false) (stays : op.drains = false) {id : JobId}
    (there : id ∈ s.dispatcher.queue.outstanding) :
    id ∈ (s.operate engine op).dispatcher.queue.outstanding := by
  rw [operate_eq]
  by_contra gone
  have course := Dispatcher.course engine h.accounted own
  have taken := (course.delivered h ((course.takes_iff h id).mp ⟨there, gone⟩)).1
  rw [stays] at taken
  cases taken

theorem handle_outstanding (h : s.dispatcher.InStep engine) (x : Sent) {id : JobId}
    (there : id ∈ s.dispatcher.queue.outstanding) :
    id ∈ (s.handle x).dispatcher.queue.outstanding := by
  have handled := handle_cases engine x s
  generalize s.handle x = t at handled
  cases handled with
  | operated own acts brings wants stays => exact operate_outstanding h _ own stays there
  | @answered snapshot url frame =>
      exact operate_outstanding h (.popup snapshot url frame) rfl rfl there
  | @panicked snapshot url frame =>
      exact operate_outstanding h (.popup snapshot url frame) rfl rfl there
  | waits => exact there
  | stops => exact there

omit [Host σ] in
theorem onDispatcher_of_ok {m : Control (Dispatcher (Desk σ)) Unit} {d : Dispatcher (Desk σ)}
    (done : m s.dispatcher = .ok () d) : s.onDispatcher m = { s with dispatcher := d } := by
  rw [onDispatcher, done]

omit [Host σ] in
theorem onDispatcher_of_error {m : Control (Dispatcher (Desk σ)) Unit} {d : Dispatcher (Desk σ)}
    {p : Panic} (failed : m s.dispatcher = .error p d) :
    s.onDispatcher m = { s with dispatcher := d, status := .panicked p } := by
  rw [onDispatcher, failed]

theorem next_delivers (h : s.dispatcher.InStep engine) (finished : s.dispatcher.queue.finished ≠ [])
    (running : (s.operate engine .next).isRunning = true) :
    ∃ id f queue entry d, Delivers id s (s.operate engine .next) f queue entry d ∧
      d.queue = queue := by
  cases found : s.dispatcher.queue.tryNext with
  | none => exact absurd (WorkQueue.tryNext_eq_none.mp found) finished
  | some taken =>
      obtain ⟨f, queue⟩ := taken
      have next := operate_next engine h.accounted found (s := s)
      have kept := Dispatcher.complete_queue f { s.dispatcher with queue }
      obtain ⟨-, entry, known, -⟩ := h.deliver found
      cases completed : Dispatcher.complete f { s.dispatcher with queue } with
      | error p d =>
          rw [onDispatcher_of_error completed] at next
          rw [← next] at running
          cases of_decide_eq_true running
      | ok _ d =>
          rw [onDispatcher_of_ok completed] at next
          rw [Control.final_ok completed] at kept
          have settled := Dispatcher.settled entry f.output
            (({ s.dispatcher with queue } : Dispatcher (Desk σ)).forgetting f.id)
          have forgotten : Dispatcher.complete f { s.dispatcher with queue } = _ :=
            Dispatcher.complete_of_some known
          rw [← forgotten, completed] at settled
          exact ⟨f.id, f, queue, entry, d, ⟨found, rfl, known, completed, settled, next.symm⟩, kept⟩

theorem Step.delivers {m : Move σ} (step : Step engine s m t) (h : s.dispatcher.InStep engine)
    {id : JobId} (there : id ∈ s.dispatcher.queue.outstanding)
    (gone : id ∉ t.dispatcher.queue.outstanding) (running : t.isRunning = true) :
    m = .takeOutcome ∧ ∃ w f queue entry d, Turn engine s .takeOutcome w ∧
      Delivers id s w f queue entry d := by
  rcases step.turn_or_beside h with ⟨-, w, turn, rfl⟩ | beside
  · rw [answerFlushes_queue] at gone
    cases turn with
    | @command x rest channel =>
        exact absurd (handle_outstanding (s := { s with channel := rest }) h x there) gone
    | outcome finished =>
        obtain ⟨next, f, queue, entry, d, delivers, kept⟩ :=
          next_delivers h finished (answerFlushes_running running)
        have same : next = id := by
          by_contra other
          have rest := (WorkQueue.outstanding_tryNext delivers.found).mem_iff.mp there
          rw [delivers.own] at rest
          rw [delivers.led, kept] at gone
          exact gone ((List.mem_cons.mp rest).resolve_left fun equal => other equal.symm)
        subst same
        exact ⟨rfl, _, f, queue, entry, d, .outcome finished, delivers⟩
  · exact absurd (beside.jobs.mem_iff.mp there) gone

theorem posted_delivered (h : s₀.dispatcher.InStep engine) (ran : run? engine ms s₀ = some s)
    (running : s.isRunning = true) (idle : s.dispatcher.inFlight = 0) {id : JobId}
    (posted : Posted engine s₀ ms id) : Delivered engine s₀ ms id := by
  obtain ⟨before, after, u, x, rest, rfl, ran', channel, -, there⟩ := posted
  have gone : id ∉ s.dispatcher.queue.outstanding := by
    rw [(run_inStep h ran).accounted.idle_iff.mp idle]
    exact List.not_mem_nil
  rw [run?_append, ran', Option.bind_some, run?] at ran
  split at ran
  · next v moved =>
      obtain ⟨_, _, channel', -, rfl⟩ := (step?_takeCommand engine).mp moved
      cases channel.symm.trans channel'
      rw [← answerFlushes_queue] at there
      obtain ⟨first, m, later, a, b, rfl, ran₁, moved₁, ran₂, here, left⟩ :=
        run_turning (Q := fun t => id ∉ t.dispatcher.queue.outstanding) ran (not_not.mpr there) gone
      have begun : run? engine (before ++ .takeCommand :: first) s₀ = some a := by
        rw [run?_append, ran', Option.bind_some, run?, moved]
        exact ran₁
      have now := run_inStep h begun
      have step := step?_cases engine now moved₁
      have goes : b.isRunning = true := by
        by_contra ended
        have still := ((run_onward (step.inStep engine now) ran₂).ended (by simpa using ended)).1
        rw [running] at still
        cases still
      obtain ⟨rfl, w, f, queue, entry, d, turn, delivers⟩ :=
        step.delivers now (not_not.mp here) left goes
      refine ⟨before ++ .takeCommand :: first, later, a, w, f, queue, entry, d, ?_, begun, turn,
        delivers⟩
      rw [List.append_assoc, List.cons_append]
  · cases ran

omit [Host σ] in
theorem answerFlushes_isRunning (s : Service σ) : s.answerFlushes.isRunning = s.isRunning := by
  rw [answerFlushes_eq]
  split <;> rfl

omit [Host σ] in
theorem answerFlushes_inFlight (s : Service σ) :
    s.answerFlushes.dispatcher.inFlight = s.dispatcher.inFlight :=
  congrArg WorkQueue.inFlight (answerFlushes_queue s)

omit [Host σ] in
theorem Ledger.waiter_unanswered (ledger : s.Ledger []) {call : CallId}
    (waits : call ∈ s.flushWaiters) : s.desk.reply? call = none :=
  ledger.held_unanswered (by simp [held, waits])

omit [Host σ] in
theorem Beside.inFlight (beside : Beside s t) (h : s.dispatcher.InStep engine)
    (h' : t.dispatcher.InStep engine) : t.dispatcher.inFlight = s.dispatcher.inFlight := by
  have same := beside.jobs.length_eq
  rwa [← h.accounted.counted, ← h'.accounted.counted, eq_comm] at same

/-- Between turns no flush waits for nothing. -/
def Drained (s : Service σ) : Prop :=
  s.isRunning = true → s.dispatcher.inFlight = 0 → s.flushWaiters = []

theorem Drained.step (drained : s.Drained) {m : Move σ} (step : Step engine s m t)
    (h : s.dispatcher.InStep engine) : t.Drained := by
  intro running idle
  rcases step.turn_or_beside h with ⟨-, w, turn, rfl⟩ | beside
  · rw [answerFlushes_isRunning] at running
    rw [answerFlushes_inFlight] at idle
    rw [answerFlushes_eq, if_pos ⟨running, idle⟩]
  · rw [beside.waiters]
    rw [beside.inFlight h (step.inStep engine h)] at idle
    exact drained (beside.running running) idle

theorem run_drained (h : s₀.dispatcher.InStep engine) (nobody : s₀.flushWaiters = [])
    (ran : run? engine ms s₀ = some s) : s.Drained :=
  run_induction (P := fun _ t => t.Drained) (fun _ _ => nobody)
    (fun _ _ _ _ earlier kept moved =>
      have now := run_inStep h earlier
      kept.step (step?_cases engine now moved) now) ms s ran

/-- What there is when a flush is answered: it waits, nothing is in flight, what entered the channel
before it has been handled, and what was posted has been delivered. -/
structure Passing (engine : Engine) (s₀ : Service σ) (ms : List (Move σ)) (call : CallId)
    (w : Service σ) : Prop where
  running : w.isRunning = true
  idle : w.dispatcher.inFlight = 0
  waits : call ∈ w.flushWaiters
  outstanding : w.callStatus call = .outstanding
  answered : w.answerFlushes.callStatus call = .answered .done
  entered : ⟨call, .flush⟩ ∈ entered engine ms s₀
  handled : ∀ front back, Service.entered engine ms s₀ = front ++ ⟨call, .flush⟩ :: back →
    front ++ [⟨call, .flush⟩] <+: taken engine ms s₀
  delivered : ∀ id, Posted engine s₀ ms id → Delivered engine s₀ ms id

/-- A turn that leaves nothing in flight lets the flushes pass that wait. -/
theorem Turn.passing {first : List (Move σ)} {m : Move σ} (h : s₀.dispatcher.InStep engine)
    (ledger : s₀.Ledger []) (origins : Origins engine s₀ [] s₀) (ordered : Ordered engine s₀ [] s₀)
    (ran : run? engine first s₀ = some u) (turn : Turn engine u m w)
    (begun : run? engine (first ++ [m]) s₀ = some w.answerFlushes)
    (idle : w.isRunning = true ∧ w.dispatcher.inFlight = 0) {call : CallId}
    (waits : call ∈ w.flushWaiters)
    (sole : ∀ command, .send call command ∈ first ++ [m] → command = .flush) :
    Passing engine s₀ (first ++ [m]) call w := by
  have before := turn.ledger (run_inStep h ran) (run_ledger h ledger ran)
  have after := run_ledger h ledger begun
  have order := run_ordered h ordered begun
  have done : (call, .done) ∈ w.answerFlushes.desk.replies := by
    rw [answerFlushes_eq, if_pos idle]
    exact List.mem_append_left _ (List.mem_reverse.mpr (List.mem_map.mpr ⟨call, waits, rfl⟩))
  have taken : ⟨call, .flush⟩ ∈ taken engine (first ++ [m]) s₀ := by
    obtain ⟨command, sent, earned⟩ := (run_origins h origins begun).earned call .done done
    cases sole command sent
    cases earned with
    | flushed was => exact was.mem
    | accepted silent => cases silent
  have running := idle.1
  have empty := idle.2
  rw [← answerFlushes_isRunning] at running
  rw [← answerFlushes_inFlight] at empty
  exact
    { running := idle.1
      idle := idle.2
      waits
      outstanding := callStatus_eq_outstanding.mpr ⟨before.waiter_unanswered waits, idle.1⟩
      answered := callStatus_eq_answered.mpr ((Desk.reply?_eq_some after.replies_distinct).mpr done)
      entered := by
        rw [order.fifo]
        exact List.mem_append_left _ taken
      handled := fun front back split => order.taken_before taken split
      delivered := fun id posted => posted_delivered h begun running empty posted }

/-- What a move may make of a flush that waits: it waits on for what is in flight, or it is answered
with nothing in flight, or the loop has ended. -/
structure Awaits (call : CallId) (t : Service σ) : Prop where
  running : t.isRunning = true → call ∈ t.flushWaiters ∧ t.dispatcher.inFlight ≠ 0 ∨
    t.callStatus call = .answered .done ∧ t.dispatcher.inFlight = 0
  ended : t.isRunning = false → t.callStatus call = .closed

theorem Step.awaits {m : Move σ} (step : Step engine s m t) (h : s.dispatcher.InStep engine)
    (ledger : s.Ledger []) (drained : s.Drained) {call : CallId} (waits : call ∈ s.flushWaiters) :
    Awaits call t := by
  have ledger' := ledger.step h step
  have closed (there : call ∈ t.flushWaiters) (ended : t.isRunning = false) :
      t.callStatus call = .closed :=
    callStatus_eq_closed.mpr ⟨ledger'.waiter_unanswered there, ended⟩
  have goesOn (there : call ∈ t.flushWaiters) (running : t.isRunning = true) :
      t.dispatcher.inFlight ≠ 0 := fun idle => by
    rw [drained.step step h running idle] at there
    cases there
  have still (there : call ∈ t.flushWaiters) : Awaits call t :=
    ⟨fun running => .inl ⟨there, goesOn there running⟩, closed there⟩
  rcases step.turn_or_beside h with ⟨-, w, turn, same⟩ | beside
  · have there := turn.waiters.subset waits
    rw [answerFlushes_eq] at same
    split at same
    · next idle =>
        have done : (call, .done) ∈ t.desk.replies := by
          rw [same]
          exact List.mem_append_left _ (List.mem_reverse.mpr (List.mem_map.mpr ⟨call, there, rfl⟩))
        have answered : t.callStatus call = .answered .done :=
          callStatus_eq_answered.mpr ((Desk.reply?_eq_some ledger'.replies_distinct).mpr done)
        refine ⟨fun _ => .inr ⟨answered, by rw [same]; exact idle.2⟩, fun ended => ?_⟩
        rw [same] at ended
        cases idle.1.symm.trans ended
    · exact still (same ▸ there)
  · exact still (beside.waiters ▸ waits)

/-- In a run, flushes are barriers. -/
structure Barrier (engine : Engine) (s₀ : Service σ) (ms : List (Move σ)) (s : Service σ) :
    Prop where
  passes : ∀ call, .send call .flush ∈ ms → s.callStatus call = .answered .done →
    ∃ first m rest u w, ms = first ++ m :: rest ∧ run? engine first s₀ = some u ∧
      Turn engine u m w ∧ run? engine (first ++ [m]) s₀ = some w.answerFlushes ∧
        Passing engine s₀ (first ++ [m]) call w
  drained : s.Drained
  awaits : ∀ call ∈ s.flushWaiters, ∀ m t, s.step? engine m = some t → Awaits call t

theorem flush_barrier {maxConcurrent commandBuffer : Nat} {host : σ}
    (spawned : spawn maxConcurrent commandBuffer host = .ok s₀) (ran : run? engine ms s₀ = some s) :
    Barrier engine s₀ ms s := by
  obtain ⟨h, ledger₀, origins₀⟩ := spawn_sound spawned engine
  have ordered₀ := spawn_ordered spawned engine
  obtain ⟨silent, nobody⟩ : s₀.desk.replies = [] ∧ s₀.flushWaiters = [] := by
    obtain ⟨dispatcher, made, rfl⟩ := spawn_eq_ok spawned
    exact ⟨by rw [desk, Dispatcher.new_host made], rfl⟩
  have there := run_inStep h ran
  have ledger := run_ledger h ledger₀ ran
  have origins := run_origins h origins₀ ran
  have drained := run_drained h nobody ran
  refine ⟨?_, drained, fun call waits m t moved =>
    (step?_cases engine there moved).awaits there ledger drained waits⟩
  intro call sent answered
  have done := (Desk.reply?_eq_some ledger.replies_distinct).mp (callStatus_eq_answered.mp answered)
  obtain ⟨first, m, rest, u, v, rfl, ran₁, moved, ran₂, before, after⟩ :=
    run_turning (Q := fun t => (call, .done) ∈ t.desk.replies) ran (by simp [silent]) done
  have begun := run?_snoc ran₁ moved
  have now := run_inStep h ran₁
  have early : first ++ [m] ⊆ first ++ m :: rest :=
    ((List.Sublist.refl first).append (List.singleton_sublist.mpr List.mem_cons_self)).subset
  have sole : ∀ command, .send call command ∈ first ++ [m] → command = .flush :=
    fun command also => origins.sole call command .flush (early also) sent
  rcases (step?_cases engine now moved).done after with
    already | ⟨x, arriving, rfl, accepted⟩ | ⟨w, turn, rfl, idle, waits⟩
  · exact absurd already before
  · -- a flush needs a reply, so it is not done on its way into the channel
    have was := (run_origins h origins₀ ran₁).waits x (List.mem_append_left _ arriving)
    rw [sole x.command (List.mem_append_left _ was)] at accepted
    cases accepted
  · exact ⟨first, m, rest, u, w, rfl, ran₁, turn, begun,
      turn.passing h ledger₀ origins₀ ordered₀ ran₁ begun idle waits sole⟩

/-- A document check that nobody waits for is delivered, its observer told, before a flush that was
sent after it is answered. -/
theorem document_before_flush :
    let live : LiveFrame := ⟨⟨1, 2⟩, ⟨"https://a.example/"⟩⟩
    let engine : Engine := ⟨fun _ => .ok .ignored⟩
    let snapshot : Snapshot := [⟨0, fun _ => .ok (some ⟨"https://list.example/"⟩)⟩]
    let ms : List (Move Register) :=
      [.send 5 (.addObserver 3), .enqueue, .takeCommand,
        .send 6 (.document snapshot ⟨"https://b.example/"⟩ live.id), .send 7 .flush, .enqueue,
        .takeCommand, .enqueue, .takeCommand, .start 0, .finish 0, .takeOutcome]
    let s₀ : Service Register :=
      { dispatcher := { queue := { free := 1 }, stage := { host := { host := ⟨[live]⟩ } } }
        capacity := 1 }
    ∃ s, run? engine ms s₀ = some s ∧ Barrier engine s₀ ms s ∧ s.replied = [7, 6, 5] := by
  intro live engine snapshot ms s₀
  have outcome : (run? engine ms s₀).map replied = some [7, 6, 5] := by decide +kernel
  obtain ⟨s, ran, replied⟩ := Option.map_eq_some_iff.mp outcome
  have spawned : spawn 1 1 ⟨[live]⟩ = .ok s₀ := rfl
  exact ⟨s, ran, flush_barrier spawned ran, replied⟩

end FilterDispatch.Service
