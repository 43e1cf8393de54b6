import FilterDispatch.Proofs.Replay.Scene
import FilterDispatch.Proofs.Service.Moves
import FilterDispatch.Replay.Reference

/-!
How a service for a scenario stands.  With one client at most one job is on its way at any time, so
a service is known by that job, its commands, the replies it gave and its scene; the moves of the
loop and of the workers are followed on these.
-/

namespace FilterDispatch

open Scenario (Event World counter keeper)

def Scene.add (o : ObserverId) (x : Scene) : Scene :=
  { x with observers := if x.observers.contains o then x.observers else x.observers ++ [o] }

theorem ObserverList.add_entries (l : ObserverList) (o : ObserverId) :
    (l.add o).2.entries = if l.entries.contains o then l.entries else l.entries ++ [o] := by
  unfold add
  by_cases known : l.contains o = true
  · rw [if_pos known, if_pos (show l.entries.contains o = true from known)]
  · rw [if_neg known, if_neg (show ¬ l.entries.contains o = true from known)]

def Scene.cleared (x : Scene) : Scene :=
  { x with world := { x.world with notifications := [] } }

/-- The queue carries at most one job, with so many moves to its delivery. -/
inductive Jobs (engine : Engine) :
    WorkQueue Job JobOutput → List (JobId × Pending) → Option Load → Nat → Prop
  | idle {free nextId} : Jobs engine { free := free + 1, nextId } [] none 0
  | waiting {free nextId id} {l : Load} :
      Jobs engine { free := free + 1, nextId, inFlight := 1, waiting := [(id, l.job)] }
        [(id, l.entry)] (some l) 3
  | running {free nextId id} {l : Load} :
      Jobs engine { free, nextId, inFlight := 1, running := [(id, l.job)] }
        [(id, l.entry)] (some l) 2
  | finished {free nextId id} {l : Load} :
      Jobs engine { free := free + 1, nextId, inFlight := 1, finished := [⟨id, l.output engine⟩] }
        [(id, l.entry)] (some l) 1

namespace Jobs

variable {engine : Engine} {q r : WorkQueue Job JobOutput} {pending : List (JobId × Pending)}
  {load : Option Load} {n : Nat} {id : JobId}

theorem inFlight_eq_zero (jobs : Jobs engine q pending load n) : q.inFlight = 0 ↔ load = none := by
  cases jobs <;> simp

theorem empty (jobs : Jobs engine q pending none n) : q.waiting = [] ∧ q.running = [] := by
  cases jobs
  exact ⟨rfl, rfl⟩

theorem post (jobs : Jobs engine q pending none n) (l : Load) :
    Jobs engine (q.post l.job).2 (pending ++ [(q.nextId, l.entry)]) (some l) 3 := by
  cases jobs
  exact .waiting

theorem without_own (id : JobId) (job : Job) : WorkQueue.without id [(id, job)] = [] := by
  simp [WorkQueue.without]

theorem start (jobs : Jobs engine q pending load n) (started : q.start? id = some r) :
    ∃ k < n, Jobs engine r pending load k := by
  cases jobs with
  | @waiting free nextId own l =>
      by_cases same : own = id
      · subst same
        simp only [WorkQueue.start?, without_own, List.find?_cons, decide_true,
          Nat.add_one_ne_zero, if_false, Option.some.injEq] at started
        subst started
        exact ⟨2, by decide, .running⟩
      · simp [WorkQueue.start?, same] at started
  | idle => simp [WorkQueue.start?] at started
  | running => simp [WorkQueue.start?] at started
  | finished => simp [WorkQueue.start?] at started

theorem finish (jobs : Jobs engine q pending load n)
    (ended : q.finish? (Job.run engine) id = some r) : ∃ k < n, Jobs engine r pending load k := by
  cases jobs with
  | @running free nextId own l =>
      by_cases same : own = id
      · subst same
        simp only [WorkQueue.finish?, without_own, List.find?_cons, decide_true,
          Option.some.injEq] at ended
        subst ended
        exact ⟨1, by decide, .finished⟩
      · simp [WorkQueue.finish?, same] at ended
  | idle => simp [WorkQueue.finish?] at ended
  | waiting => simp [WorkQueue.finish?] at ended
  | finished => simp [WorkQueue.finish?] at ended

theorem take {f : Finished JobOutput} (jobs : Jobs engine q pending load n)
    (taken : q.next = .taken f r) : ∃ l, load = some l ∧ f.output = l.output engine ∧
      pending.lookup f.id = some l.entry ∧
      Jobs engine r (pending.filter fun e => e.1 ≠ f.id) none 0 ∧ 0 < n := by
  cases jobs with
  | @finished free nextId own l =>
      cases taken
      refine ⟨l, rfl, rfl, by simp, ?_, by decide⟩
      simp only [ne_eq, decide_not, List.filter_cons, decide_true, Bool.not_true]
      exact .idle
  | idle => cases taken
  | waiting => cases taken
  | running => cases taken

theorem moves (jobs : Jobs engine q pending load n) (there : load ≠ none) :
    (∃ f r, q.next = .taken f r) ∨
    (∃ id job rest, q.running = (id, job) :: rest ∧ q.finish? (Job.run engine) id ≠ none) ∨
    ∃ id job rest, q.running = [] ∧ q.waiting = (id, job) :: rest ∧ q.start? id ≠ none := by
  cases jobs with
  | idle => exact absurd rfl there
  | waiting => exact .inr (.inr ⟨_, _, _, rfl, rfl, by simp [WorkQueue.start?]⟩)
  | running => exact .inr (.inl ⟨_, _, _, rfl, by simp [WorkQueue.finish?]⟩)
  | finished => exact .inl ⟨_, _, rfl⟩

end Jobs

/-- All of a service that counts; `work` is what is still to be done for its job. -/
structure Standing where
  load : Option Load := none
  work : Nat := 0
  channel : List Sent := []
  arriving : List Sent := []
  waiters : List CallId := []
  scene : Scene
  replies : List (CallId × Reply) := []

namespace Standing

def weight (a : Standing) : Nat :=
  5 * a.arriving.length + 4 * a.channel.length + a.work

end Standing

namespace Service

structure Stands (s : Scenario) (a : Standing) (t : Service World) : Prop where
  running : t.status = .running
  handles : t.handles = 1
  room : 0 < t.capacity
  jobs : Jobs (Scenario.engine s.ownTables) t.dispatcher.queue t.dispatcher.pending a.load a.work
  channel : t.channel = a.channel
  arriving : t.arriving = a.arriving
  waiters : t.flushWaiters = a.waiters
  scene : t.dispatcher.scene = a.scene
  serves : a.scene.Serves s
  replies : t.desk.replies = a.replies

/-- A service that has stopped with nothing on its way. -/
structure Stopped (x : Scene) (replies : List (CallId × Reply)) (t : Service World) : Prop where
  status : t.status = .stopped
  waiting : t.dispatcher.queue.waiting = []
  running : t.dispatcher.queue.running = []
  scene : t.dispatcher.scene = x
  replies : t.desk.replies = replies

/-- A service that has come to its end, however it did, with nothing on its way. -/
structure Halted (replies : List (CallId × Reply)) (t : Service World) : Prop where
  ended : t.isRunning = false
  waiting : t.dispatcher.queue.waiting = []
  running : t.dispatcher.queue.running = []
  replies : t.desk.replies = replies

variable {s : Scenario} {a : Standing} {t u : Service World}

theorem Stands.isRunning (stands : Stands s a t) : t.isRunning = true := by
  rw [Service.isRunning, stands.running]
  rfl

/-- At the end of a turn with nothing on its way every flush is answered. -/
theorem Stands.answer_idle (stands : Stands s a t) (idle : a.load = none) :
    Stands s
      { a with
        waiters := []
        replies := (a.waiters.map fun call => (call, Reply.done)).reverse ++ a.replies }
      t.answerFlushes := by
  rw [answerFlushes_eq, if_pos ⟨stands.isRunning, stands.jobs.inFlight_eq_zero.mpr idle⟩]
  have flushed := congrArg₂
    (fun waiters replies => (waiters.map fun call => (call, Reply.done)).reverse ++ replies)
    stands.waiters stands.replies
  exact ⟨stands.running, stands.handles, stands.room, stands.jobs, stands.channel,
    stands.arriving, rfl, stands.scene, stands.serves, flushed⟩

theorem Stands.answer_busy {l : Load} (stands : Stands s a t) (busy : a.load = some l) :
    Stands s a t.answerFlushes := by
  have working : ¬ (t.isRunning = true ∧ t.dispatcher.inFlight = 0) := fun both => by
    have idle := stands.jobs.inFlight_eq_zero.mp both.2
    rw [busy] at idle
    cases idle
  rwa [answerFlushes_eq, if_neg working]

theorem Stands.answer_nobody (stands : Stands s a t) (waiters : a.waiters = []) :
    Stands s a t.answerFlushes := by
  cases there : a.load with
  | some l => exact stands.answer_busy there
  | none =>
      have answered := stands.answer_idle there
      obtain ⟨_, _, _, _, _, _, _⟩ := a
      cases waiters
      exact answered

theorem Stands.rest (stands : Stands s a t) (rest : List Sent) :
    Stands s { a with channel := rest } { t with channel := rest } :=
  ⟨stands.running, stands.handles, stands.room, stands.jobs, rfl, stands.arriving, stands.waiters,
    stands.scene, stands.serves, stands.replies⟩

theorem Stands.dispatched {d : Dispatcher (Desk World)} {load : Option Load} {n : Nat} {x : Scene}
    {replies : List (CallId × Reply)} (stands : Stands s a t)
    (jobs : Jobs (Scenario.engine s.ownTables) d.queue d.pending load n) (scene : d.scene = x)
    (serves : x.Serves s) (replied : d.stage.host.replies = replies) :
    Stands s { a with load, work := n, scene := x, replies } { t with dispatcher := d } :=
  ⟨stands.running, stands.handles, stands.room, jobs, stands.channel, stands.arriving,
    stands.waiters, scene, serves, replied⟩

theorem Stands.send (stands : Stands s a t) (call : CallId) (command : Command) :
    Stands s { a with arriving := a.arriving ++ [⟨call, command⟩] } (t.send call command) := by
  have sent : t.send call command =
      { t with calls := call :: t.calls, arriving := t.arriving ++ [⟨call, command⟩] } :=
    if_pos stands.isRunning
  rw [sent, stands.arriving]
  exact ⟨stands.running, stands.handles, stands.room, stands.jobs, stands.channel, rfl,
    stands.waiters, stands.scene, stands.serves, stands.replies⟩

theorem Stands.clear (stands : Stands s a t) :
    Stands s { a with scene := a.scene.cleared }
      (t.changeHost fun w => { w with notifications := [] }) :=
  stands.dispatched (d := t.dispatcher.changeHost _) stands.jobs
    (congrArg Scene.cleared stands.scene) ⟨stands.serves.tables, stands.serves.own⟩ stands.replies

theorem Stands.enqueue (stands : Stands s a t) (moved : t.enqueue? = some u) :
    ∃ x rest, a.arriving = x :: rest ∧ Stands s
      { a with
        arriving := rest
        channel := a.channel ++ [x]
        replies :=
          if x.command.wantsReply then a.replies else (x.call, .done) :: a.replies } u := by
  obtain ⟨x, rest, arriving, -, rfl⟩ := (step?_enqueue (Scenario.engine s.ownTables)).mp moved
  refine ⟨x, rest, stands.arriving ▸ arriving, ?_⟩
  have entered : Stands s { a with arriving := rest, channel := a.channel ++ [x] }
      { t with arriving := rest, channel := t.channel ++ [x] } :=
    ⟨stands.running, stands.handles, stands.room, stands.jobs, congrArg (· ++ [x]) stands.channel,
      rfl, stands.waiters, stands.scene, stands.serves, stands.replies⟩
  rw [enter]
  split
  · exact entered
  · exact entered.dispatched stands.jobs stands.scene stands.serves
      (congrArg ((x.call, Reply.done) :: ·) stands.replies)

theorem Stands.takeCommand (stands : Stands s a t) (moved : t.takeCommand? = some u) :
    ∃ x rest, a.channel = x :: rest ∧
      u = (({ t with channel := rest }).handle x).answerFlushes := by
  obtain ⟨x, rest, channel, -, rfl⟩ := (step?_takeCommand (Scenario.engine s.ownTables)).mp moved
  exact ⟨x, rest, stands.channel ▸ channel, rfl⟩

theorem Stands.handle_observe (stands : Stands s a t) (call : CallId) {o : ObserverId}
    (own : o = keeper ∨ o = counter) :
    Stands s { a with scene := a.scene.add o } (t.handle ⟨call, .addObserver o⟩) := by
  have observers : (t.dispatcher.addObserver o).scene = a.scene.add o := by
    rw [← stands.scene]
    simp only [Dispatcher.scene, Dispatcher.addObserver, ObserverList.add_entries]
    rfl
  refine stands.dispatched stands.jobs observers ⟨stands.serves.tables, fun p member => ?_⟩
    stands.replies
  rw [Scene.add] at member
  split at member
  · exact stands.serves.own p member
  · rcases List.mem_append.mp member with before | now
    · exact stands.serves.own p before
    · rw [List.mem_singleton.mp now]
      exact own

theorem Stands.handle_document (stands : Stands s a t) (idle : a.load = none) (call : CallId)
    (url : Url) (frame : FrameId) :
    Stands s { a with load := some ⟨.allowlist s.snapshot url, .document url frame⟩, work := 3 }
      (t.handle ⟨call, .document s.snapshot url frame⟩) :=
  stands.dispatched ((idle ▸ stands.jobs).post ⟨.allowlist s.snapshot url, .document url frame⟩)
    stands.scene stands.serves stands.replies

theorem Stands.handle_flush (stands : Stands s a t) (call : CallId) :
    Stands s { a with waiters := a.waiters ++ [call] } (t.handle ⟨call, .flush⟩) :=
  ⟨stands.running, stands.handles, stands.room, stands.jobs, stands.channel, stands.arriving,
    congrArg (· ++ [call]) stands.waiters, stands.scene, stands.serves, stands.replies⟩

theorem Stands.handle_shutdown (stands : Stands s a t) (idle : a.load = none) (call : CallId) :
    Stopped a.scene a.replies (t.handle ⟨call, .shutdown⟩).answerFlushes := by
  have ended : (t.handle ⟨call, .shutdown⟩).isRunning = false := rfl
  rw [answerFlushes_eq, ended]
  obtain ⟨waiting, running⟩ := (idle ▸ stands.jobs).empty
  exact ⟨rfl, waiting, running, stands.scene, stands.replies⟩

/-- The job for a call's answer, and the scene that its delivery leads to. -/
inductive Answering (s : Scenario) (call : CallId) (r : Answer) (x : Scene) (a : Standing)
    (t : Service World) : Prop
  | done : Stands s { a with scene := x, replies := (call, .answer r) :: a.replies } t →
      Answering s call r x a t
  | posted {y} (l : Load) : l.reply? (Scenario.engine s.ownTables) = some (call, r) →
      l.settle (Scenario.engine s.ownTables) y = x →
      Stands s { a with load := some l, work := 3, scene := y } t → Answering s call r x a t

theorem Stands.placed {d : Dispatcher (Desk World)} {call : CallId} {r : Answer} {x : Scene}
    (stands : Stands s a t) (idle : a.load = none)
    (placed : Dispatcher.Placed (Scenario.engine s.ownTables) call t.dispatcher r x d) :
    Answering s call r x a { t with dispatcher := d } := by
  have jobs := stands.jobs
  have serves (frames : Scenario.FrameTable) : (t.dispatcher.scene.withFrames frames).Serves s :=
    (stands.scene.symm ▸ stands.serves : t.dispatcher.scene.Serves s).withFrames frames
  cases placed with
  | answered becomes =>
      refine .done (stands.dispatched ?_ becomes.scene_eq (serves _) ?_)
      · rw [becomes.queue, becomes.pending]
        exact jobs
      · rw [becomes.host, ← stands.replies]
        rfl
  | @posted frames e l becomes due =>
      refine .posted l due rfl (stands.dispatched ?_ becomes.scene_eq (serves _) ?_)
      · rw [idle, ← becomes.queue, ← becomes.pending] at jobs
        exact jobs.post l
      · exact (congrArg Desk.replies becomes.host).trans stands.replies

theorem Stands.onDispatcher {m : Control (Dispatcher (Desk World)) Unit} {call : CallId} {e : Event}
    (stands : Stands s a t) (idle : a.load = none)
    (ran : ∃ r x d, t.dispatcher.scene.play s.tables e = (.answer r, x) ∧
      m t.dispatcher = .ok () d ∧
      Dispatcher.Placed (Scenario.engine s.ownTables) call t.dispatcher r x d) :
    ∃ r x, a.scene.play s.tables e = (.answer r, x) ∧
      Answering s call r x a (t.onDispatcher m) := by
  obtain ⟨r, x, d, played, done, placed⟩ := ran
  have moved : t.onDispatcher m = { t with dispatcher := d } := by
    rw [Service.onDispatcher, done]
  rw [← stands.scene, moved]
  exact ⟨r, x, played, stands.placed idle placed⟩

theorem Stands.handle_popup (stands : Stands s a t) (url : Url) (frame : FrameId) (call : CallId) :
    ∃ r x, a.scene.play s.tables (.popup url frame) = (.answer r, x) ∧
      Answering s call r x a (t.popup call s.snapshot url frame) := by
  have serves : t.dispatcher.scene.Serves s := stands.scene.symm ▸ stands.serves
  obtain ⟨r, x, d, played, observers, done, becomes⟩ :=
    Dispatcher.popup_world url frame t.dispatcher serves
  have moved : t.popup call s.snapshot url frame =
      { t with dispatcher := d.changeHost (Desk.put call (.answer (.result r))) } := by
    rw [Service.popup, done]
    rfl
  have after : x.Serves s := by simpa only [played] using serves.play s.tables (.popup url frame)
  rw [← stands.scene, moved]
  refine ⟨.result r, x, played, .done (stands.dispatched ?_ ?_ after ?_)⟩
  · have jobs := stands.jobs
    rwa [← becomes.queue, ← becomes.pending] at jobs
  · have shown : d.scene = x := by rw [becomes.scene_eq, ← observers]
    exact shown
  · have replies : d.stage.host.replies = a.replies :=
      (congrArg Desk.replies becomes.host).trans stands.replies
    exact congrArg ((call, Reply.answer (.result r)) :: ·) replies

theorem Stands.handle_event {e : Event} (stands : Stands s a t) (idle : a.load = none)
    (fits : e.Fits) (asks : (Replay.eventCommand s.snapshot e).wantsReply = true) (call : CallId) :
    ∃ r x, a.scene.play s.tables e = (.answer r, x) ∧
      Answering s call r x a (t.handle ⟨call, Replay.eventCommand s.snapshot e⟩) := by
  cases e with
  | request url contentType frame =>
      have guarded : Dispatcher.request s.snapshot url contentType frame call =
          (Dispatcher.place (.request s.snapshot url contentType frame call) :
            Control (Dispatcher (Desk World)) Unit) := by
        obtain ⟨other, plain⟩ : contentType ≠ .websocket ∧ url.isWebSocket = false := fits
        rw [← Dispatcher.classifyRequest_eq, Dispatcher.request, if_neg (by simp [other, plain])]
      refine stands.onDispatcher idle ?_
      rw [guarded]
      exact Dispatcher.place_resource (c := .request s.snapshot url contentType frame call)
        (e := .request url contentType frame) t.dispatcher rfl rfl _ (fun _ => rfl) (fun _ => rfl)
        (fun _ => rfl) (fun _ => rfl)
  | socket url frame =>
      have guarded : Dispatcher.socketUpgrade s.snapshot url frame call =
          (Dispatcher.place (.request s.snapshot url .websocket frame call) :
            Control (Dispatcher (Desk World)) Unit) := by
        have own : url.isWebSocket = true := fits
        rw [← Dispatcher.classifyRequest_eq, Dispatcher.socketUpgrade, own]
        rfl
      refine stands.onDispatcher idle ?_
      rw [guarded]
      exact Dispatcher.place_resource (c := .request s.snapshot url .websocket frame call)
        (e := .socket url frame) t.dispatcher rfl rfl _ (fun _ => rfl) (fun _ => rfl)
        (fun _ => rfl) (fun _ => rfl)
  | response url contentType frame headers =>
      refine stands.onDispatcher idle ?_
      rw [Dispatcher.response_eq]
      exact Dispatcher.place_resource
        (c := .response s.snapshot url contentType frame headers call)
        (e := .response url contentType frame headers) t.dispatcher rfl rfl _ (fun _ => rfl)
        (fun _ => rfl) (fun _ => rfl) (fun _ => rfl)
  | popup url frame => exact stands.handle_popup url frame call
  | document url frame => cases asks
  | rewrite url frame =>
      refine stands.onDispatcher idle ?_
      rw [Dispatcher.rewrite_eq]
      exact Dispatcher.place_rewrite url frame call t.dispatcher

theorem Stands.takeOutcome (stands : Stands s a t) (moved : t.takeOutcome? = some u) :
    ∃ l v, a.load = some l ∧ 0 < a.work ∧
      Stands s
        { a with
          load := none
          work := 0
          scene := l.settle (Scenario.engine s.ownTables) a.scene
          replies :=
            Dispatcher.replied (l.reply? (Scenario.engine s.ownTables)) ++ a.replies } v ∧
      v.answerFlushes = u := by
  rw [takeOutcome?, if_pos stands.isRunning] at moved
  cases next : t.dispatcher.queue.next with
  | idle => simp only [next, reduceCtorEq] at moved
  | pending => simp only [next, reduceCtorEq] at moved
  | taken f q =>
      simp only [next, Option.some.injEq] at moved
      subst moved
      obtain ⟨l, load, output, known, idle, working⟩ := stands.jobs.take next
      refine ⟨l, _, load, working, ?_, rfl⟩
      let taken : Dispatcher (Desk World) := { t.dispatcher with queue := q }
      have serves : (taken.forgetting f.id).scene.Serves s := stands.scene.symm ▸ stands.serves
      obtain ⟨d, settled, becomes⟩ :=
        Dispatcher.settle_world l (Scenario.engine s.ownTables) (taken.forgetting f.id) serves
      have completed : Dispatcher.complete f taken = .ok () d := by
        rw [Dispatcher.complete_of_some (d := taken) known, output]
        exact settled
      have moved : Service.onDispatcher (Dispatcher.complete f) { t with dispatcher := taken } =
          { t with dispatcher := d } := by
        rw [Service.onDispatcher, completed]
      rw [moved]
      have scene : (taken.forgetting f.id).scene = a.scene := stands.scene
      rw [scene] at becomes
      refine stands.dispatched ?_ ?_ (l.settle_serves _ stands.serves) ?_
      · rw [becomes.queue, becomes.pending]
        exact idle
      · have same : (taken.forgetting f.id).observers.entries = a.scene.observers :=
          congrArg Scene.observers scene
        rw [becomes.scene_eq, same, ← l.settle_observers (Scenario.engine s.ownTables)]
      · rw [becomes.host, ← stands.replies]
        rfl

theorem Stands.start {id : JobId} (stands : Stands s a t) (moved : t.start? id = some u) :
    ∃ n < a.work, Stands s { a with work := n } u := by
  unfold start? at moved
  cases started : t.dispatcher.queue.start? id with
  | none => simp only [started, reduceCtorEq] at moved
  | some q =>
      simp only [started, Option.some.injEq] at moved
      subst moved
      obtain ⟨n, less, jobs⟩ := stands.jobs.start started
      exact ⟨n, less, stands.dispatched jobs stands.scene stands.serves stands.replies⟩

theorem Stands.finish {id : JobId} (stands : Stands s a t)
    (moved : t.finish? (Scenario.engine s.ownTables) id = some u) :
    ∃ n < a.work, Stands s { a with work := n } u := by
  unfold finish? at moved
  cases ended : t.dispatcher.queue.finish? (Job.run (Scenario.engine s.ownTables)) id with
  | none => simp only [ended, reduceCtorEq] at moved
  | some q =>
      simp only [ended, Option.some.injEq] at moved
      subst moved
      obtain ⟨n, less, jobs⟩ := stands.jobs.finish ended
      exact ⟨n, less, stands.dispatched jobs stands.scene stands.serves stands.replies⟩

theorem Stands.stays (stands : Stands s a t) : t.hangUp? = none := by
  have held : t.hungUp = false := by simp [hungUp, stands.handles]
  simp [hangUp?, held]

theorem Stands.goes_on (stands : Stands s a t)
    (more : a.channel ≠ [] ∨ a.arriving ≠ [] ∨ a.load ≠ none) :
    t.progress? (Scenario.engine s.ownTables) ≠ none := by
  intro stuck
  simp only [progress?, turn?, serve?, Option.orElse_eq_orElse, Option.orElse_eq_or,
    Option.or_eq_none_iff] at stuck
  obtain ⟨⟨⟨full, untaken, undelivered⟩, -⟩, unworked⟩ := stuck
  have empty : t.channel = [] := by
    cases first : t.channel with
    | nil => rfl
    | cons x rest => simp [takeCommand?, first, stands.isRunning] at untaken
  have quiet : t.arriving = [] := by
    cases first : t.arriving with
    | nil => rfl
    | cons x rest => simp [enqueue?, first, stands.isRunning, empty, stands.room] at full
  rw [← stands.channel, ← stands.arriving, empty, quiet] at more
  have there : a.load ≠ none := by simpa using more
  obtain ⟨f, q, next⟩ | ⟨id, job, rest, running, ends⟩ | ⟨id, job, rest, idle, waiting, starts⟩ :=
    stands.jobs.moves there
  · simp [takeOutcome?, stands.isRunning, next] at undelivered
  · obtain ⟨q, ended⟩ := Option.ne_none_iff_exists'.mp ends
    simp [work?, running, finish?, ended] at unworked
  · obtain ⟨q, started⟩ := Option.ne_none_iff_exists'.mp starts
    simp [work?, idle, waiting, start?, started] at unworked

/-- A move of the loop or of a worker. -/
inductive Goes (engine : Engine) (t u : Service World) : Prop
  | enqueue : t.enqueue? = some u → Goes engine t u
  | takeCommand : t.takeCommand? = some u → Goes engine t u
  | takeOutcome : t.takeOutcome? = some u → Goes engine t u
  | start {id} : t.start? id = some u → Goes engine t u
  | finish {id} : t.finish? engine id = some u → Goes engine t u

theorem Stopped.halted {x : Scene} {replies : List (CallId × Reply)}
    (stopped : Stopped x replies t) : Halted replies t := by
  refine ⟨?_, stopped.waiting, stopped.running, stopped.replies⟩
  rw [Service.isRunning, stopped.status]
  rfl

theorem Stopped.ended {x : Scene} {replies : List (CallId × Reply)}
    (stopped : Stopped x replies t) : t.isRunning = false :=
  stopped.halted.ended

theorem Halted.still {replies : List (CallId × Reply)} {engine : Engine}
    (halted : Halted replies t) : ¬ Goes engine t u := by
  have ended := halted.ended
  rintro (moved | moved | moved | moved | moved)
  · cases arriving : t.arriving <;> simp [enqueue?, arriving, ended] at moved
  · cases channel : t.channel <;> simp [takeCommand?, channel, ended] at moved
  · simp [takeOutcome?, ended] at moved
  · simp [start?, WorkQueue.start?, halted.waiting] at moved
  · simp [finish?, WorkQueue.finish?, halted.running] at moved

theorem Halted.callStatus {replies : List (CallId × Reply)} {call : CallId}
    (halted : Halted replies t) (unanswered : replies.lookup call = none) :
    t.callStatus call = .closed := by
  rw [Service.callStatus, Desk.reply?, halted.replies, unanswered, halted.ended]
  rfl

theorem Halted.stays {replies : List (CallId × Reply)} (halted : Halted replies t) :
    t.hangUp? = none := by
  simp [hangUp?, halted.ended]

theorem work?_goes {engine : Engine} (moved : t.work? engine = some u) : Goes engine t u := by
  unfold work? at moved
  split at moved
  · exact .finish moved
  · split at moved
    · exact .start moved
    · cases moved

theorem progress?_goes {engine : Engine} (stays : t.hangUp? = none)
    (moved : t.progress? engine = some u) : Goes engine t u := by
  simp only [progress?, turn?, serve?, stays, Option.orElse_eq_orElse, Option.orElse_eq_or,
    Option.or_none, Option.or_eq_some_iff] at moved
  obtain (enqueued | ⟨-, taken | ⟨-, delivered⟩⟩) | ⟨-, worked⟩ := moved
  · exact .enqueue enqueued
  · exact .takeCommand taken
  · exact .takeOutcome delivered
  · exact work?_goes worked

end Service

end FilterDispatch
