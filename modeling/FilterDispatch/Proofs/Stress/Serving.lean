import FilterDispatch.Proofs.Queue.Workers
import FilterDispatch.Proofs.Replay.Standing
import FilterDispatch.Proofs.Scenario.Frames
import FilterDispatch.Proofs.Service.Barrier

/-!
A service that many requests are sent to at once, all of them for frames that stay.  Whoever moves,
each request is told what the tables rule on it, and as long as one of them is waiting somebody can
move.
-/

namespace FilterDispatch

open Scenario (FrameTable World verdict)

namespace Scenario.FrameTable

variable {t : FrameTable} {id : FrameId}

/-- The frame is there, however often it is looked up. -/
def Stays (id : FrameId) (t : FrameTable) : Prop :=
  ∃ f, t.find? id = some f ∧ f.frame.diesAfterDispatch = false

theorem Stays.resolve_eq (stays : t.Stays id) :
    ∃ live, t.resolve id = (some live, t.mark id) := by
  obtain ⟨f, there, lasts⟩ := stays
  refine ⟨f.frame.live, ?_⟩
  rw [FrameTable.resolve, there]
  simp [lasts]

theorem Stays.resolve (stays : t.Stays id) (j : FrameId) : (t.resolve j).2.Stays id := by
  by_cases same : id = j
  · subst same
    obtain ⟨live, found⟩ := stays.resolve_eq
    obtain ⟨f, there, lasts⟩ := stays
    refine ⟨{ f with dispatched := true }, ?_, lasts⟩
    rw [found, find?_mark, there, Option.map_some, if_pos rfl]
  · rw [Stays, resolve_other same]
    exact stays

end Scenario.FrameTable

namespace Scene

variable {s : Scenario} {x : Scene}

/-- The scene serves the scenario, and frames that stay are there. -/
structure Keeps (s : Scenario) (x : Scene) : Prop where
  serves : x.Serves s
  stays : ∀ id, s.frameTable.Stays id → x.world.frames.Stays id

theorem Keeps.resolve (keeps : x.Keeps s) (id : FrameId) :
    (x.withFrames (x.world.frames.resolve id).2).Keeps s :=
  ⟨keeps.serves.withFrames _, fun j stays => (keeps.stays j stays).resolve id⟩

theorem hear_frames (x : Scene) (n : Notification) :
    (x.hear n).world.frames = x.world.frames := by
  have one (o : ObserverId) (w : World) : (w.observe o n).frames = w.frames := by
    unfold World.observe
    split
    · rfl
    · split <;> rfl
  have all (os : List ObserverId) (w : World) :
      (os.foldl (fun w o => w.observe o n) w).frames = w.frames := by
    induction os generalizing w with
    | nil => rfl
    | cons o rest ih => exact (ih _).trans (one o w)
  exact all x.observers x.world

theorem Keeps.hear (keeps : x.Keeps s) (n : Notification) : (x.hear n).Keeps s := by
  refine ⟨keeps.serves.hear n, fun id stays => ?_⟩
  rw [hear_frames]
  exact keeps.stays id stays

theorem Keeps.settle (engine : Engine) (l : Load) (keeps : x.Keeps s) :
    (l.settle engine x).Keeps s := by
  have foldl (ns : List Notification) {y : Scene} (keeps : y.Keeps s) :
      (ns.foldl Scene.hear y).Keeps s := by
    induction ns generalizing y with
    | nil => exact keeps
    | cons n rest ih => exact ih (keeps.hear n)
  unfold Load.settle
  cases l.entry.report? (l.output engine) with
  | none => exact keeps
  | some due =>
      simp only [tell, FrameTable.tell_eq]
      exact foldl _ (keeps.resolve due.1)

end Scene

namespace WorkQueue

variable {ι ο : Type} {q r : WorkQueue ι ο} {id : JobId}

/-- So many moves take every job there is from its place to its delivery. -/
def movesLeft (q : WorkQueue ι ο) : Nat :=
  3 * q.waiting.length + 2 * q.running.length + q.finished.length

theorem movesLeft_post (q : WorkQueue ι ο) (job : ι) :
    (q.post job).2.movesLeft = q.movesLeft + 3 := by
  simp only [post, movesLeft, List.length_append, List.length_singleton]
  omega

theorem movesLeft_start? (h : q.Accounted) (started : q.start? id = some r) :
    r.movesLeft + 1 = q.movesLeft := by
  obtain ⟨job, found, -, rfl⟩ := start?_eq_some.mp started
  have fewer := (perm_cons_without h.waiting_distinct (List.mem_of_find?_eq_some found)).length_eq
  rw [find?_id found, List.length_cons] at fewer
  simp only [movesLeft, List.length_append, List.length_singleton]
  omega

theorem movesLeft_finish? {run : ι → Except Panic ο} (h : q.Accounted)
    (done : q.finish? run id = some r) : r.movesLeft + 1 = q.movesLeft := by
  obtain ⟨job, found, rfl⟩ := finish?_eq_some.mp done
  have fewer := (perm_cons_without h.running_distinct (List.mem_of_find?_eq_some found)).length_eq
  rw [find?_id found, List.length_cons] at fewer
  simp only [movesLeft, List.length_append, List.length_singleton]
  omega

theorem movesLeft_tryNext {f : Finished ο} (taken : q.tryNext = some (f, r)) :
    r.movesLeft + 1 = q.movesLeft := by
  obtain ⟨first, rest⟩ := tryNext_eq_some.mp taken
  rw [rest]
  simp only [movesLeft, first, List.length_cons]
  omega

theorem tryNext_of_next {f : Finished ο} (taken : q.next = .taken f r) :
    q.tryNext = some (f, r) := by
  unfold next at taken
  split at taken
  · cases taken
  · cases found : q.tryNext with
    | none => simp [found] at taken
    | some both =>
        rw [found] at taken
        cases taken
        rfl

theorem movesLeft_eq_zero : q.movesLeft = 0 ↔ q.outstanding = [] := by
  rw [← List.length_eq_zero_iff]
  simp only [movesLeft, outstanding, List.length_append, List.length_map]
  omega

end WorkQueue

namespace Dispatcher

variable {s : Scenario} {ruling : CallId → MatchResult} {d e : Dispatcher (Desk World)}

/-- Callers were told, or will be, what is ruled on their calls. -/
structure Rules (s : Scenario) (ruling : CallId → MatchResult) (d : Dispatcher (Desk World)) :
    Prop where
  inStep : d.InStep (Scenario.engine s.ownTables)
  permits : 0 < d.queue.free + d.queue.running.length
  keeps : d.scene.Keeps s
  due : ∀ id entry, (id, entry) ∈ d.pending →
    ∃ job call, d.queue.Carries (Job.run (Scenario.engine s.ownTables)) id job ∧
      (⟨job, entry⟩ : Load).reply? (Scenario.engine s.ownTables) =
        some (call, .result (ruling call))
  told : ∀ call r, (call, r) ∈ d.stage.host.replies → r = .answer (.result (ruling call))

theorem Rules.becomes {h : Desk World} (rules : d.Rules s ruling) (becomes : d.Becomes h e)
    (keeps : Scene.Keeps s ⟨d.observers.entries, h.host⟩)
    (same : h.replies = d.stage.host.replies) : e.Rules s ruling := by
  refine ⟨⟨?_, ?_, ?_⟩, ?_, ?_, ?_, ?_⟩
  · rw [becomes.queue]
    exact rules.inStep.accounted
  · rw [becomes.queue, becomes.pending]
    exact rules.inStep.keys
  · rw [becomes.queue, becomes.pending]
    exact rules.inStep.kinds
  · rw [becomes.queue]
    exact rules.permits
  · rw [becomes.scene_eq]
    exact keeps
  · rw [becomes.queue, becomes.pending]
    exact rules.due
  · rw [becomes.host, same]
    exact rules.told

theorem Rules.posting {call : CallId} (rules : d.Rules s ruling) (l : Load)
    (fits : l.entry.kind = l.job.kind)
    (due : l.reply? (Scenario.engine s.ownTables) = some (call, .result (ruling call))) :
    (d.posting l.job l.entry).Rules s ruling := by
  refine ⟨rules.inStep.posting fits, rules.permits, rules.keeps, ?_, rules.told⟩
  intro id entry member
  rcases List.mem_append.mp member with old | new
  · obtain ⟨job, call, carried, due⟩ := rules.due id entry old
    exact ⟨job, call, carried.post l.job, due⟩
  · cases List.mem_singleton.mp new
    exact ⟨l.job, call, WorkQueue.carries_post _ d.queue l.job, due⟩

theorem Rules.request {call : CallId} {url : Url} {contentType : ContentType} {frame : FrameId}
    (rules : d.Rules s ruling) (other : contentType ≠ .websocket) (plain : url.isWebSocket = false)
    (stays : s.frameTable.Stays frame) (ruled : (verdict s.tables url).result = ruling call) :
    ∃ e, Dispatcher.request s.snapshot url contentType frame call d = .ok () e ∧
      e.Rules s ruling ∧ e.queue.movesLeft = d.queue.movesLeft + 3 := by
  have guarded : Dispatcher.request s.snapshot url contentType frame call =
      (place (.request s.snapshot url contentType frame call) :
        Control (Dispatcher (Desk World)) Unit) := by
    rw [← classifyRequest_eq, Dispatcher.request, if_neg (by simp [other, plain])]
  obtain ⟨live, found⟩ := (rules.keeps.stays frame stays).resolve_eq
  obtain ⟨sight, e, rfl, chain, placed, becomes⟩ :=
    place_some (c := .request s.snapshot url contentType frame call) found
  obtain ⟨due, -⟩ := Scenario.play_resource_some (s := s) (e := .request url contentType frame)
    (q := .request s.snapshot url sight.ancestors contentType sight.siteKey) call rfl rfl found
    rfl rfl
  rw [← chain, ruled] at due
  have looked : (d.scene.withFrames (d.scene.world.frames.mark frame)).Keeps s := by
    have resolved := rules.keeps.resolve frame
    rwa [found] at resolved
  have there := rules.becomes becomes looked rfl
  refine ⟨_, guarded ▸ placed, there.posting ⟨_, _⟩ rfl due, ?_⟩
  rw [← becomes.queue]
  exact WorkQueue.movesLeft_post e.queue _

theorem Rules.complete {f : Finished JobOutput} {queue : WorkQueue Job JobOutput}
    (rules : d.Rules s ruling) (found : d.queue.tryNext = some (f, queue)) :
    ∃ e, Dispatcher.complete f { d with queue } = .ok () e ∧ e.Rules s ruling ∧
      e.queue = queue := by
  have accounted := rules.inStep.accounted
  obtain ⟨after, entry, known, -⟩ := rules.inStep.deliver found
  obtain ⟨job, call, carried, due⟩ := rules.due f.id entry (rules.inStep.lookup.mp known)
  have own := carried.tryNext accounted found
  rw [if_pos rfl] at own
  have output : f.output = (⟨job, entry⟩ : Load).output (Scenario.engine s.ownTables) :=
    congrArg Finished.output own
  let taken : Dispatcher (Desk World) := { d with queue }
  obtain ⟨e, settled, becomes⟩ := settle_world ⟨job, entry⟩ (Scenario.engine s.ownTables)
    (taken.forgetting f.id) rules.keeps.serves
  have completed : Dispatcher.complete f taken = .ok () e := by
    rw [complete_of_some (d := taken) known, output]
    exact settled
  rw [Control.final_ok completed] at after
  refine ⟨e, completed, ⟨after, ?_, ?_, ?_, ?_⟩, becomes.queue⟩
  · obtain ⟨-, shape⟩ := WorkQueue.tryNext_eq_some.mp found
    rw [becomes.queue, show (taken.forgetting f.id).queue = queue from rfl, shape]
    exact rules.permits
  · have settled := rules.keeps.settle (Scenario.engine s.ownTables) ⟨job, entry⟩
    have observers : d.scene.observers = _ :=
      (Load.settle_observers (Scenario.engine s.ownTables) ⟨job, entry⟩ d.scene).symm
    rw [becomes.scene_eq]
    rw [show (taken.forgetting f.id).observers.entries = d.scene.observers from rfl, observers]
    exact settled
  · intro id other member
    rw [becomes.pending] at member
    obtain ⟨old, differs⟩ := List.mem_filter.mp member
    obtain ⟨job', call', carried', due'⟩ := rules.due id other old
    have still := carried'.tryNext accounted found
    rw [if_neg fun equal => of_decide_eq_true differs equal.symm] at still
    rw [becomes.queue]
    exact ⟨job', call', still, due'⟩
  · intro other r member
    rw [becomes.host, due] at member
    rcases List.mem_cons.mp member with now | before
    · cases now
      rfl
    · exact rules.told other r before

theorem Rules.work {queue : WorkQueue Job JobOutput} (rules : d.Rules s ruling)
    (accounted : queue.Accounted) (moved : d.queue.outstanding.Perm queue.outstanding)
    (permits : d.queue.free + d.queue.running.length ≤ queue.free + queue.running.length)
    (carries : ∀ id job, d.queue.Carries (Job.run (Scenario.engine s.ownTables)) id job →
      queue.Carries (Job.run (Scenario.engine s.ownTables)) id job) :
    ({ d with queue } : Dispatcher (Desk World)).Rules s ruling := by
  refine ⟨rules.inStep.work accounted moved carries, Nat.lt_of_lt_of_le rules.permits permits,
    rules.keeps, ?_, rules.told⟩
  intro id entry member
  obtain ⟨job, call, carried, due⟩ := rules.due id entry member
  exact ⟨job, call, carries id job carried, due⟩

theorem Rules.awaited_eq_nil (rules : d.Rules s ruling) :
    d.awaited = [] ↔ d.queue.movesLeft = 0 := by
  rw [WorkQueue.movesLeft_eq_zero]
  have kept : d.pending = [] ↔ d.queue.outstanding = [] := by
    rw [← List.length_eq_zero_iff, ← List.length_eq_zero_iff, ← rules.inStep.keys.length_eq,
      List.length_map]
  rw [← kept, awaited, List.filterMap_eq_nil_iff]
  constructor
  · intro uncalled
    apply List.eq_nil_iff_forall_not_mem.mpr
    rintro ⟨id, entry⟩ member
    obtain ⟨job, call, -, due⟩ := rules.due id entry member
    have called := entry.reply?_callback
      ((⟨job, entry⟩ : Load).output (Scenario.engine s.ownTables))
    rw [uncalled _ member, Option.map_eq_none_iff] at called
    rw [Load.reply?, called] at due
    cases due
  · intro empty
    rw [empty]
    exact List.forall_mem_nil _

end Dispatcher

namespace Service

variable {s : Scenario} {ruling : CallId → MatchResult} {t u : Service World}

/-- A request for a resource of a frame that stays, and what the tables rule on it. -/
inductive Poses (s : Scenario) (ruling : CallId → MatchResult) : Sent → Prop
  | request {call url contentType frame} : contentType ≠ .websocket → url.isWebSocket = false →
      s.frameTable.Stays frame → (verdict s.tables url).result = ruling call →
      Poses s ruling ⟨call, .request s.snapshot url contentType frame⟩

theorem Poses.wantsReply {x : Sent} (poses : Poses s ruling x) : x.command.wantsReply = true := by
  cases poses
  rfl

/-- The service runs, and all its callers wait for a ruling or have one. -/
structure Rules (s : Scenario) (ruling : CallId → MatchResult) (t : Service World) : Prop where
  running : t.isRunning = true
  handles : t.handles = 1
  room : 0 < t.capacity
  patient : t.abandoned = []
  unflushed : t.flushWaiters = []
  ledger : t.Ledger []
  poses : ∀ x ∈ t.arriving ++ t.channel, Poses s ruling x
  dispatcher : t.dispatcher.Rules s ruling

theorem movesLeft_eq (t : Service World) : t.movesLeft =
    5 * t.arriving.length + 4 * t.channel.length + t.dispatcher.queue.movesLeft + 1 := by
  simp only [movesLeft, WorkQueue.movesLeft]
  omega

theorem answerFlushes_nobody (nobody : t.flushWaiters = []) : t.answerFlushes = t := by
  rw [answerFlushes_eq]
  split
  · cases t
    cases nobody
    rfl
  · rfl

theorem takeOutcome?_taken (moved : t.takeOutcome? = some u) :
    ∃ f queue, t.dispatcher.queue.tryNext = some (f, queue) ∧
      (({ t with dispatcher := { t.dispatcher with queue } } : Service World).onDispatcher
        (Dispatcher.complete f)).answerFlushes = u := by
  obtain ⟨-, moved⟩ := Option.ite_none_right_eq_some.mp moved
  split at moved
  · next f queue taken =>
      exact ⟨f, queue, WorkQueue.tryNext_of_next taken, Option.some.inj moved⟩
  · cases moved

theorem Rules.send {x : Sent} (rules : t.Rules s ruling) (poses : Poses s ruling x)
    (fresh : x.call ∉ t.calls) : (t.send x.call x.command).Rules s ruling ∧
      (t.send x.call x.command).movesLeft = t.movesLeft + 5 := by
  have ledger := rules.ledger.send x.command fresh
  rw [send_of_running x.call x.command rules.running] at ledger ⊢
  refine ⟨⟨rules.running, rules.handles, rules.room, rules.patient, rules.unflushed, ledger, ?_,
    rules.dispatcher⟩, ?_⟩
  · intro y member
    rcases List.mem_append.mp member with coming | there
    · rcases List.mem_append.mp coming with before | now
      · exact rules.poses y (List.mem_append_left _ before)
      · exact List.mem_singleton.mp now ▸ poses
    · exact rules.poses y (List.mem_append_right _ there)
  · simp only [movesLeft_eq, List.length_append, List.length_singleton]
    omega

theorem Rules.moved {arriving channel : List Sent} {d : Dispatcher (Desk World)}
    (rules : t.Rules s ruling)
    (ledger : ({ t with arriving, channel, dispatcher := d } : Service World).Ledger [])
    (poses : ∀ x ∈ arriving ++ channel, Poses s ruling x) (ruled : d.Rules s ruling) :
    ({ t with arriving, channel, dispatcher := d } : Service World).Rules s ruling :=
  ⟨rules.running, rules.handles, rules.room, rules.patient, rules.unflushed, ledger, poses, ruled⟩

theorem Rules.enqueue (rules : t.Rules s ruling) (moved : t.enqueue? = some u)
    (ledger : u.Ledger []) : u.Rules s ruling ∧ u.movesLeft < t.movesLeft := by
  obtain ⟨x, rest, arriving, -, rfl⟩ := (step?_enqueue (Scenario.engine s.ownTables)).mp moved
  have poses := rules.poses
  rw [arriving] at poses
  have asks := (poses x List.mem_cons_self).wantsReply
  rw [enter, if_pos asks] at ledger ⊢
  refine ⟨rules.moved ledger ?_ rules.dispatcher, ?_⟩
  · intro y member
    apply poses y
    simp only [List.mem_append, List.mem_cons, List.not_mem_nil, or_false] at member ⊢
    tauto
  · simp only [movesLeft_eq, arriving, List.length_append, List.length_cons, List.length_nil]
    omega

theorem Rules.takeCommand (rules : t.Rules s ruling) (moved : t.takeCommand? = some u)
    (ledger : u.Ledger []) : u.Rules s ruling ∧ u.movesLeft < t.movesLeft := by
  obtain ⟨x, rest, channel, -, rfl⟩ :=
    (step?_takeCommand (Scenario.engine s.ownTables)).mp moved
  have poses := rules.poses
  rw [channel] at poses
  have others : ∀ y ∈ t.arriving ++ rest, Poses s ruling y := fun y member =>
    poses y (((List.sublist_cons_self x rest).append_left t.arriving).subset member)
  cases poses x (List.mem_append_right _ List.mem_cons_self) with
  | @request call url contentType frame other plain stays ruled =>
      obtain ⟨d, done, ruled, more⟩ := rules.dispatcher.request other plain stays ruled
      have handled : ({ t with channel := rest } : Service World).handle
          ⟨call, .request s.snapshot url contentType frame⟩ =
          { t with channel := rest, dispatcher := d } :=
        onDispatcher_of_ok (s := { t with channel := rest }) done
      have quiet := answerFlushes_nobody
        (t := { t with channel := rest, dispatcher := d }) rules.unflushed
      rw [handled, quiet] at ledger ⊢
      refine ⟨rules.moved ledger others ruled, ?_⟩
      simp only [movesLeft_eq, channel, more, List.length_cons]
      omega

theorem Rules.takeOutcome (rules : t.Rules s ruling) (moved : t.takeOutcome? = some u)
    (ledger : u.Ledger []) : u.Rules s ruling ∧ u.movesLeft < t.movesLeft := by
  obtain ⟨f, queue, found, rfl⟩ := takeOutcome?_taken moved
  obtain ⟨d, done, ruled, same⟩ := rules.dispatcher.complete found
  have fewer := WorkQueue.movesLeft_tryNext found
  have completed := onDispatcher_of_ok
    (s := { t with dispatcher := { t.dispatcher with queue } }) done
  have quiet := answerFlushes_nobody (t := { t with dispatcher := d }) rules.unflushed
  rw [completed, quiet] at ledger ⊢
  refine ⟨rules.moved ledger rules.poses ruled, ?_⟩
  simp only [movesLeft_eq, same]
  omega

theorem Rules.worked {queue : WorkQueue Job JobOutput} {fs : List (Finished JobOutput)}
    (rules : t.Rules s ruling) (accounted : queue.Accounted)
    (worked : WorkQueue.Worked t.dispatcher.queue queue fs)
    (carries : ∀ id job,
      t.dispatcher.queue.Carries (Job.run (Scenario.engine s.ownTables)) id job →
        queue.Carries (Job.run (Scenario.engine s.ownTables)) id job)
    (fewer : queue.movesLeft + 1 = t.dispatcher.queue.movesLeft)
    (ledger : ({ t with dispatcher := { t.dispatcher with queue } } : Service World).Ledger []) :
    ({ t with dispatcher := { t.dispatcher with queue } } : Service World).Rules s ruling ∧
      ({ t with dispatcher := { t.dispatcher with queue } } : Service World).movesLeft <
        t.movesLeft := by
  have ruled := rules.dispatcher.work accounted worked.jobs worked.permits carries
  refine ⟨rules.moved ledger rules.poses ruled, ?_⟩
  simp only [movesLeft_eq]
  omega

theorem Rules.start {id : JobId} (rules : t.Rules s ruling) (moved : t.start? id = some u)
    (ledger : u.Ledger []) : u.Rules s ruling ∧ u.movesLeft < t.movesLeft := by
  have accounted := rules.dispatcher.inStep.accounted
  unfold start? at moved
  cases started : t.dispatcher.queue.start? id with
  | none => simp only [started, reduceCtorEq] at moved
  | some queue =>
      simp only [started, Option.some.injEq] at moved
      subst moved
      exact rules.worked (accounted.start? started) (WorkQueue.worked_start? accounted started)
        (fun _ _ carried => carried.start? accounted started)
        (WorkQueue.movesLeft_start? accounted started) ledger

theorem Rules.finish {id : JobId} (rules : t.Rules s ruling)
    (moved : t.finish? (Scenario.engine s.ownTables) id = some u) (ledger : u.Ledger []) :
    u.Rules s ruling ∧ u.movesLeft < t.movesLeft := by
  have accounted := rules.dispatcher.inStep.accounted
  unfold finish? at moved
  cases ended : t.dispatcher.queue.finish? (Job.run (Scenario.engine s.ownTables)) id with
  | none => simp only [ended, reduceCtorEq] at moved
  | some queue =>
      simp only [ended, Option.some.injEq] at moved
      subst moved
      obtain ⟨f, worked⟩ := WorkQueue.worked_finish? accounted ended
      exact rules.worked (accounted.finish? ended) worked
        (fun _ _ carried => carried.finish? accounted ended)
        (WorkQueue.movesLeft_finish? accounted ended) ledger

theorem Goes.calls_nothing {engine : Engine} (goes : Goes engine t u)
    (h : t.dispatcher.InStep engine) : ∃ m, Step engine t m u ∧ m.made? = none := by
  cases goes with
  | enqueue moved => exact ⟨.enqueue, step?_cases engine h moved, rfl⟩
  | takeCommand moved => exact ⟨.takeCommand, step?_cases engine h moved, rfl⟩
  | takeOutcome moved => exact ⟨.takeOutcome, step?_cases engine h moved, rfl⟩
  | @start id moved => exact ⟨.start id, step?_cases engine h moved, rfl⟩
  | @finish id moved => exact ⟨.finish id, step?_cases engine h moved, rfl⟩

/-- What a move of the loop or of a worker comes to. -/
structure Later (s : Scenario) (ruling : CallId → MatchResult) (t u : Service World) : Prop where
  rules : u.Rules s ruling
  fewer : u.movesLeft < t.movesLeft
  calls : u.calls = t.calls
  replies : t.desk.replies ⊆ u.desk.replies

theorem Rules.goes (rules : t.Rules s ruling) (goes : Goes (Scenario.engine s.ownTables) t u) :
    Later s ruling t u := by
  obtain ⟨m, step, made⟩ := goes.calls_nothing rules.dispatcher.inStep
  have ledger := rules.ledger.step rules.dispatcher.inStep step
  have calls : u.calls = t.calls := by
    rw [step.clients.1, made, Option.toList_none, List.nil_append]
  have later (both : u.Rules s ruling ∧ u.movesLeft < t.movesLeft) : Later s ruling t u :=
    ⟨both.1, both.2, calls, step.replies.subset⟩
  cases goes with
  | enqueue moved => exact later (rules.enqueue moved ledger)
  | takeCommand moved => exact later (rules.takeCommand moved ledger)
  | takeOutcome moved => exact later (rules.takeOutcome moved ledger)
  | start moved => exact later (rules.start moved ledger)
  | finish moved => exact later (rules.finish moved ledger)

theorem Ledger.answered_iff {hand : List Sent} (ledger : t.Ledger hand) {call : CallId}
    {r : Reply} : t.callStatus call = .answered r ↔ (call, r) ∈ t.desk.replies :=
  callStatus_eq_answered.trans (Desk.reply?_eq_some ledger.replies_distinct)

theorem Rules.callStatus (rules : t.Rules s ruling) (call : CallId) :
    t.callStatus call = .outstanding ∨
      t.callStatus call = .answered (.answer (.result (ruling call))) := by
  cases replied : t.desk.reply? call with
  | none => exact .inl (callStatus_eq_outstanding.mpr ⟨replied, rules.running⟩)
  | some r =>
      have answered := callStatus_eq_answered.mpr replied
      have told := rules.dispatcher.told call r (rules.ledger.answered_iff.mp answered)
      exact .inr (told ▸ answered)

theorem Rules.quiet_iff (rules : t.Rules s ruling) :
    t.movesLeft = 1 ↔ ∀ call ∈ t.calls, t.callStatus call ≠ .outstanding := by
  have own : t.channel.filter (·.command.wantsReply) = t.channel :=
    List.filter_eq_self.mpr fun x member =>
      (rules.poses x (List.mem_append_right _ member)).wantsReply
  have held : t.held [] = [] ↔ t.movesLeft = 1 := by
    have idle := rules.dispatcher.awaited_eq_nil
    rw [held, List.nil_append, own, rules.unflushed, movesLeft_eq]
    simp only [List.append_eq_nil_iff, List.map_eq_nil_iff, and_true, idle,
      ← List.length_eq_zero_iff (l := t.arriving), ← List.length_eq_zero_iff (l := t.channel)]
    omega
  have waits {call : CallId} (made : call ∈ t.calls) :=
    rules.ledger.outstanding_iff rules.running made (by simp [rules.patient])
  rw [← held, List.eq_nil_iff_forall_not_mem]
  constructor
  · intro none call made waiting
    exact none call ((waits made).mp waiting)
  · intro none call member
    have made := rules.ledger.made (List.mem_append_left _ member)
    exact none call made ((waits made).mpr member)

theorem Rules.stays (rules : t.Rules s ruling) : t.hangUp? = none := by
  have held : t.hungUp = false := by simp [hungUp, rules.handles]
  simp [hangUp?, held]

theorem Rules.goes_on (rules : t.Rules s ruling)
    (stuck : t.progress? (Scenario.engine s.ownTables) = none) : t.movesLeft = 1 := by
  simp only [progress?, turn?, serve?, Option.orElse_eq_orElse, Option.orElse_eq_or,
    Option.or_eq_none_iff] at stuck
  obtain ⟨⟨⟨full, untaken, undelivered⟩, -⟩, unworked⟩ := stuck
  have empty : t.channel = [] := by
    cases first : t.channel with
    | nil => rfl
    | cons x rest => simp [takeCommand?, first, rules.running] at untaken
  have quiet : t.arriving = [] := by
    cases first : t.arriving with
    | nil => rfl
    | cons x rest => simp [enqueue?, first, rules.running, empty, rules.room] at full
  have idle : t.dispatcher.queue.running = [] := by
    cases first : t.dispatcher.queue.running with
    | nil => rfl
    | cons job rest =>
        simp [work?, first, finish?, WorkQueue.finish?] at unworked
  have permits := rules.dispatcher.permits
  have unstarted : t.dispatcher.queue.waiting = [] := by
    cases first : t.dispatcher.queue.waiting with
    | nil => rfl
    | cons job rest =>
        rw [idle, List.length_nil, Nat.add_zero] at permits
        simp [work?, idle, first, start?, WorkQueue.start?, Nat.ne_of_gt permits] at unworked
  have none : t.dispatcher.queue.finished = [] := by
    by_contra there
    have taken := (takeOutcome?_eq_some (Scenario.engine s.ownTables)
      rules.dispatcher.inStep.accounted).mpr ⟨rules.running, there, rfl⟩
    rw [undelivered] at taken
    cases taken
  simp only [movesLeft, empty, quiet, idle, unstarted, none, List.length_nil]

/-- Left to itself the service answers every caller. -/
theorem Rules.rest (rules : t.Rules s ruling) :
    (t.rest (Scenario.engine s.ownTables)).Rules s ruling ∧
      (t.rest (Scenario.engine s.ownTables)).calls = t.calls ∧
      (t.rest (Scenario.engine s.ownTables)).movesLeft = 1 := by
  suffices enough : ∀ n t, t.Rules s ruling → t.movesLeft ≤ n →
      let u := repeatAtMost (progress? (Scenario.engine s.ownTables)) n t
      u.Rules s ruling ∧ u.calls = t.calls ∧ u.movesLeft = 1 from
    enough t.movesLeft t rules (Nat.le_refl _)
  intro n
  induction n with
  | zero =>
      intro t _ none
      exact absurd none (Nat.not_succ_le_zero _)
  | succ n ih =>
      intro t rules enough
      rw [repeatAtMost]
      cases moved : t.progress? (Scenario.engine s.ownTables) with
      | none => exact ⟨rules, rfl, rules.goes_on moved⟩
      | some u =>
          have later := rules.goes (progress?_goes rules.stays moved)
          have less := later.fewer
          obtain ⟨rules, calls, quiet⟩ := ih u later.rules (by omega)
          exact ⟨rules, calls.trans later.calls, quiet⟩

theorem spawn_rules {maxConcurrent commandBuffer : Nat} (s : Scenario)
    (ruling : CallId → MatchResult) (permits : maxConcurrent ≤ maxPermits)
    (places : commandBuffer ≤ maxPermits) :
    ∃ t, spawn maxConcurrent commandBuffer (World.ofScenario s) = .ok t ∧ t.Rules s ruling ∧
      t.calls = [] ∧ t.movesLeft = 1 := by
  have positive : 1 ≤ maxPermits := by decide
  let t : Service World :=
    { dispatcher :=
        { queue := { free := max 1 maxConcurrent }
          stage := { host := { host := .ofScenario s } } }
      capacity := max 1 commandBuffer }
  have spawned : spawn maxConcurrent commandBuffer (World.ofScenario s) = .ok t := by
    have few : ¬ maxPermits < max 1 maxConcurrent :=
      Nat.not_lt.mpr (Nat.max_le.mpr ⟨positive, permits⟩)
    have small : ¬ maxPermits < max 1 commandBuffer :=
      Nat.not_lt.mpr (Nat.max_le.mpr ⟨positive, places⟩)
    simp only [spawn, Dispatcher.new, WorkQueue.new, few, small, if_false, t]
  obtain ⟨inStep, ledger, -⟩ := spawn_sound spawned (Scenario.engine s.ownTables)
  have one (n : Nat) : 0 < max 1 n := Nat.lt_of_lt_of_le Nat.zero_lt_one (Nat.le_max_left 1 n)
  refine ⟨t, spawned, ?_, rfl, rfl⟩
  refine ⟨rfl, rfl, one _, rfl, rfl, ledger, List.forall_mem_nil _, ⟨inStep, one _, ?_, ?_, ?_⟩⟩
  · exact ⟨⟨rfl, List.forall_mem_nil _⟩, fun id stays => stays⟩
  · exact fun id entry member => absurd member List.not_mem_nil
  · exact fun call r member => absurd member List.not_mem_nil

end Service

end FilterDispatch
