import FilterDispatch.Proofs.Replay.Sequential

/-!
Replays with an event that their service cannot take.  Up to that event the replay goes on as one
that ends there.  Then the service panics on it; the client, which waits for the answer, finds the
service closed and reports nothing, whatever comes behind the event.
-/

namespace FilterDispatch

open Scenario (Event World counter keeper)

theorem Replay.eventCommand_wantsReply {e : Event} (misfit : ¬ e.Fits) (s : Snapshot) :
    (Replay.eventCommand s e).wantsReply = true := by
  cases e with
  | document => exact absurd trivial misfit
  | request => rfl
  | socket => rfl
  | response => rfl
  | popup => rfl
  | rewrite => rfl

namespace Service

variable {s : Scenario} {a : Standing} {t : Service World}

/-- The dispatcher refuses the event before it does anything. -/
theorem handle_misrouted {e : Event} (misfit : ¬ e.Fits) (call : CallId) :
    ∃ p, t.handle ⟨call, Replay.eventCommand s.snapshot e⟩ = { t with status := .panicked p } := by
  cases e with
  | request url contentType frame =>
      have wrong : contentType = .websocket ∨ url.isWebSocket = true :=
        or_iff_not_imp_left.mpr (by simpa [Event.Fits] using misfit)
      have refused : Dispatcher.request s.snapshot url contentType frame call t.dispatcher =
          .error Dispatcher.wantsSocketUpgrade t.dispatcher := by
        rw [Dispatcher.request, if_pos wrong]
        rfl
      exact ⟨Dispatcher.wantsSocketUpgrade, by
        simp only [handle, Replay.eventCommand, onDispatcher, refused]⟩
  | socket url frame =>
      have wrong : (!url.isWebSocket) = true := by simpa [Event.Fits] using misfit
      have refused : Dispatcher.socketUpgrade s.snapshot url frame call t.dispatcher =
          .error (Dispatcher.noSocketUpgrade url) t.dispatcher := by
        rw [Dispatcher.socketUpgrade, if_pos wrong]
        rfl
      exact ⟨Dispatcher.noSocketUpgrade url, by
        simp only [handle, Replay.eventCommand, onDispatcher, refused]⟩
  | response => exact absurd trivial misfit
  | popup => exact absurd trivial misfit
  | document => exact absurd trivial misfit
  | rewrite => exact absurd trivial misfit

theorem spawn_within {σ : Type} {maxConcurrent commandBuffer : Nat} {host : σ} {t : Service σ}
    (spawned : spawn maxConcurrent commandBuffer host = .ok t) :
    maxConcurrent ≤ maxPermits ∧ commandBuffer ≤ maxPermits := by
  unfold spawn Dispatcher.new at spawned
  cases queued : (WorkQueue.new maxConcurrent : Except Panic (WorkQueue Job JobOutput)) with
  | error p => simp [queued] at spawned
  | ok q =>
      obtain ⟨permits, -⟩ := WorkQueue.new_eq_ok.mp queued
      refine ⟨Nat.le_trans (Nat.le_max_right 1 _) permits, ?_⟩
      by_cases excess : maxPermits < max 1 commandBuffer
      · simp only [queued, if_pos excess] at spawned
        cases spawned
      · exact Nat.le_trans (Nat.le_max_right 1 _) (Nat.not_lt.mp excess)

theorem Stands.handle_misrouted {e : Event} (stands : Stands s a t) (idle : a.load = none)
    (misfit : ¬ e.Fits) (call : CallId) :
    Halted a.replies (t.handle ⟨call, Replay.eventCommand s.snapshot e⟩).answerFlushes := by
  obtain ⟨p, panicked⟩ := Service.handle_misrouted (s := s) (t := t) misfit call
  have ended : ({ t with status := .panicked p } : Service World).isRunning = false := rfl
  obtain ⟨waiting, running⟩ := (idle ▸ stands.jobs).empty
  rw [panicked, answerFlushes_eq, ended]
  exact ⟨rfl, waiting, running, stands.replies⟩

end Service

namespace Replay

/-- A command on its way, with nothing but registrations before it. -/
inductive Nearing (s : Scenario) (y : Sent) (a : Standing) : Prop
  | arriving {front x} : a.arriving = [y] → Ahead s .calm front [] x a → Nearing s y a
  | entered {front x} : a.arriving = [] → Ahead s .calm front [y] x a → Nearing s y a

structure Nearing.Onward (s : Scenario) (y : Sent) (a b : Standing) (u : Service World) : Prop where
  stands : Service.Stands s b u
  nearing : Nearing s y b
  replies : b.replies = a.replies
  lighter : b.weight < a.weight

namespace Nearing

variable {s : Scenario} {e : Event} {call : CallId} {y : Sent} {a : Standing} {t u : Service World}

theorem enqueue (nearing : Nearing s y a) (asks : y.command.wantsReply = true)
    (stands : Service.Stands s a t) (moved : t.enqueue? = some u) : ∃ b, Onward s y a b u := by
  obtain ⟨z, more, arriving, entered⟩ := stands.enqueue moved
  cases nearing with
  | arriving alone ahead =>
      rw [alone] at arriving
      obtain ⟨rfl, rfl⟩ := List.cons.inj arriving
      simp only [asks, if_true] at entered
      obtain ⟨order, channel, waiters, leads⟩ := ahead
      rw [List.append_nil] at channel
      refine ⟨_, entered, .entered rfl ⟨order, congrArg (· ++ [_]) channel, waiters, leads⟩,
        rfl, ?_⟩
      simp [Standing.weight, alone]
      omega
  | entered quiet => rw [quiet] at arriving; cases arriving

/-- The registrations are taken first, then the command itself. -/
theorem takeCommand (nearing : Nearing s ⟨call, eventCommand s.snapshot e⟩ a) (misfit : ¬ e.Fits)
    (stands : Service.Stands s a t) (moved : t.takeCommand? = some u) :
    (∃ b, Onward s ⟨call, eventCommand s.snapshot e⟩ a b u) ∨ Service.Halted a.replies u := by
  obtain ⟨z, more, first, rfl⟩ := stands.takeCommand moved
  cases nearing with
  | @arriving front x alone ahead =>
      cases front with
      | nil => rw [ahead.channel] at first; cases first
      | cons c rest =>
          obtain ⟨b, onward, there⟩ | ⟨leaving, -⟩ := ahead.take stands moved
          · exact .inl ⟨b, onward.stands, .arriving (onward.arriving.trans alone) there,
              onward.replies, onward.lighter⟩
          · cases leaving
  | @entered front x quiet ahead =>
      cases front with
      | nil =>
          rw [ahead.channel] at first
          obtain ⟨rfl, rfl⟩ := List.cons.inj first
          exact .inr ((stands.rest []).handle_misrouted ahead.order.calm_load misfit call)
      | cons c rest =>
          obtain ⟨b, onward, there⟩ | ⟨leaving, -⟩ := ahead.take stands moved
          · exact .inl ⟨b, onward.stands, .entered (onward.arriving.trans quiet) there,
              onward.replies, onward.lighter⟩
          · cases leaving

theorem work (nearing : Nearing s y a) (n : Nat) : Nearing s y { a with work := n } := by
  cases nearing with
  | arriving alone ahead => exact .arriving alone (ahead.work n)
  | entered quiet ahead => exact .entered quiet (ahead.work n)

theorem calm_load (nearing : Nearing s y a) : a.load = none := by
  cases nearing with
  | arriving alone ahead => exact ahead.order.calm_load
  | entered quiet ahead => exact ahead.order.calm_load

theorem step (nearing : Nearing s ⟨call, eventCommand s.snapshot e⟩ a) (misfit : ¬ e.Fits)
    (stands : Service.Stands s a t) (goes : Service.Goes (Scenario.engine s.ownTables) t u) :
    (∃ b, Onward s ⟨call, eventCommand s.snapshot e⟩ a b u) ∨ Service.Halted a.replies u := by
  have worked {n : Nat} (less : n < a.work) (there : Service.Stands s { a with work := n } u) :
      ∃ b, Onward s ⟨call, eventCommand s.snapshot e⟩ a b u :=
    ⟨_, there, nearing.work n, rfl, Nat.add_lt_add_left less _⟩
  cases goes with
  | enqueue moved =>
      exact .inl (nearing.enqueue (eventCommand_wantsReply misfit s.snapshot) stands moved)
  | takeCommand moved => exact nearing.takeCommand misfit stands moved
  | takeOutcome moved =>
      obtain ⟨l, v, there, -⟩ := stands.takeOutcome moved
      rw [nearing.calm_load] at there
      cases there
  | start moved =>
      obtain ⟨n, less, there⟩ := stands.start moved
      exact .inl (worked less there)
  | finish moved =>
      obtain ⟨n, less, there⟩ := stands.finish moved
      exact .inl (worked less there)

theorem weight_pos (nearing : Nearing s y a) : 0 < a.weight := by
  cases nearing with
  | arriving alone ahead =>
      simp only [Standing.weight, alone, List.length_singleton]
      omega
  | entered quiet ahead =>
      simp only [Standing.weight, ahead.channel, List.length_append, List.length_singleton]
      omega

theorem goes_on (nearing : Nearing s y a) (stands : Service.Stands s a t) :
    t.progress? (Scenario.engine s.ownTables) ≠ none := by
  cases nearing with
  | arriving alone ahead => exact stands.goes_on (.inr (.inl (by simp [alone])))
  | entered quiet ahead => exact stands.goes_on (.inl (by simp [ahead.channel]))

end Nearing

/-- The machine is on its way to an event that its service cannot take, and makes so many moves at
most until the client finds the service closed. -/
inductive Doomed (s : Scenario) (e : Event) (n : Nat) (m : Machine) : Prop
  | before {R task rest behind} : m.todo = task :: (rest ++ .dispatch e :: behind) →
      Sim s R n (m.withTodo (task :: (rest ++ [.shutdown, .join]))) → Doomed s e n m
  | facing {a front x behind} : Serving s a m → m.todo = .dispatch e :: behind → m.sent = none →
      a.arriving = [] → Ahead s .calm front [] x a → 7 + a.weight ≤ n → Doomed s e n m
  | sent {a call behind} : Serving s a m → m.todo = .dispatch e :: behind → m.sent = some call →
      a.replies.lookup call = none → Nearing s ⟨call, eventCommand s.snapshot e⟩ a →
      1 + a.weight ≤ n → Doomed s e n m
  | broken {call behind replies} : m.closed = false → m.todo = .dispatch e :: behind →
      m.sent = some call → Service.Halted replies m.service → replies.lookup call = none →
      1 ≤ n → Doomed s e n m
  | closed {replies} : m.closed = true → Service.Halted replies m.service → Doomed s e n m

namespace Doomed

variable {s : Scenario} {e : Event} {n : Nat} {m m' : Machine}

theorem of_sim {R : Report} {behind : List Task} (sim : Sim s R n (m.withTodo [.shutdown, .join]))
    (todo : m.todo = .dispatch e :: behind) (sent : m.sent = none) : Doomed s e n m := by
  cases sim with
  | between serving _ quiet agenda ahead closes bound =>
      refine .facing ⟨serving.unclosed, serving.snapshot, serving.stands, serving.fresh⟩ todo sent
        quiet ahead ?_
      simp only [Machine.withTodo, List.length_cons, List.length_nil] at bound
      omega
  | awaiting serving _ waits =>
      have waits : m.sent = some _ := waits
      rw [sent] at waits
      cases waits
  | stopped unclosed stopped leaving =>
      have leaving : Leaving _ [.shutdown, .join] m.sent := leaving
      rw [sent] at leaving
      cases leaving

theorem client (doomed : Doomed s e n m) (moved : m.client? = some m') :
    ∃ k < n, Doomed s e k m' := by
  cases doomed with
  | @before R task rest behind todo sim =>
      obtain ⟨left, swapped⟩ | ⟨left, sent, swapped⟩ :=
        Machine.client?_swap todo (rest ++ [.shutdown, .join]) moved
      · obtain ⟨k, less, there⟩ := sim.client swapped
        exact ⟨k, less, .before left there⟩
      · obtain ⟨k, less, there⟩ := sim.client swapped
        cases rest with
        | nil => exact ⟨k, less, of_sim there left sent⟩
        | cons next rest => exact ⟨k, less, .before left there⟩
  | @facing a front x behind serving todo sent quiet ahead bound =>
      rw [Machine.client?_send serving.unclosed todo sent, serving.snapshot] at moved
      simp only [Task.command?, Option.some.injEq] at moved
      subst moved
      refine ⟨1 + (5 + a.weight), by omega, .sent ⟨serving.unclosed, rfl,
        serving.stands.send m.nextCall (eventCommand s.snapshot e),
        fun p old => Nat.lt_succ_of_lt (serving.fresh p old)⟩ todo rfl
        (Sim.fresh_lookup serving.fresh)
        (.arriving (congrArg (· ++ [_]) quiet)
          ⟨ahead.order, ahead.channel, ahead.waiters, ahead.leads⟩) ?_⟩
      simp [Standing.weight, quiet]
      omega
  | @sent a call behind serving todo sent fresh =>
      have status : m.service.callStatus call = .outstanding := by
        rw [Service.callStatus, Desk.reply?, serving.stands.replies, fresh,
          serving.stands.isRunning]
        rfl
      rw [Machine.client?_wait serving.unclosed todo sent, status] at moved
      cases moved
  | @broken call behind replies unclosed todo sent halted fresh bound =>
      rw [Machine.client?_wait unclosed todo sent, halted.callStatus fresh] at moved
      simp only [Option.some.injEq] at moved
      subst moved
      exact ⟨0, bound, .closed rfl halted⟩
  | closed closed => simp [Machine.client?, closed] at moved

theorem goes (misfit : ¬ e.Fits) (doomed : Doomed s e n m) {u : Service World}
    (moved : Service.Goes (Scenario.engine s.ownTables) m.service u) :
    ∃ k < n, Doomed s e k { m with service := u } := by
  cases doomed with
  | before todo sim =>
      obtain ⟨k, less, there⟩ := sim.goes moved
      exact ⟨k, less, .before todo there⟩
  | facing serving todo sent quiet ahead bound =>
      obtain ⟨b, later, onward, there⟩ | ⟨leaving, -⟩ := ahead.step quiet serving.stands moved
      · exact ⟨_, Nat.lt_of_lt_of_le (Nat.add_lt_add_left onward.lighter _) bound,
          .facing ⟨serving.unclosed, serving.snapshot, onward.stands,
            onward.replies ▸ serving.fresh⟩ todo sent (onward.arriving.trans quiet) there
            (Nat.le_refl _)⟩
      · cases leaving
  | sent serving todo sent fresh nearing bound =>
      obtain ⟨b, onward⟩ | halted := nearing.step misfit serving.stands moved
      · exact ⟨_, Nat.lt_of_lt_of_le (Nat.add_lt_add_left onward.lighter _) bound,
          .sent ⟨serving.unclosed, serving.snapshot, onward.stands,
            onward.replies ▸ serving.fresh⟩ todo sent (onward.replies ▸ fresh) onward.nearing
            (Nat.le_refl _)⟩
      · have heavier := nearing.weight_pos
        exact ⟨1, by omega, .broken serving.unclosed todo sent halted fresh (Nat.le_refl 1)⟩
  | broken unclosed todo sent halted => exact absurd moved halted.still
  | closed closed halted => exact absurd moved halted.still

theorem mono {k : Nat} (doomed : Doomed s e k m) (le : k ≤ n) : Doomed s e n m := by
  cases doomed with
  | before todo sim => exact .before todo (sim.mono le)
  | facing serving todo sent quiet ahead bound =>
      exact .facing serving todo sent quiet ahead (Nat.le_trans bound le)
  | sent serving todo sent fresh nearing bound =>
      exact .sent serving todo sent fresh nearing (Nat.le_trans bound le)
  | broken unclosed todo sent halted fresh bound =>
      exact .broken unclosed todo sent halted fresh (Nat.le_trans bound le)
  | closed closed halted => exact .closed closed halted

theorem outcome (doomed : Doomed s e n m) : m.outcome? = none ∨ m.outcome? = some none := by
  cases doomed with
  | before todo sim =>
      have unclosed : m.closed = false := sim.unclosed
      simp [Machine.outcome?, unclosed, todo]
  | facing serving todo => simp [Machine.outcome?, serving.unclosed, todo]
  | sent serving todo => simp [Machine.outcome?, serving.unclosed, todo]
  | broken unclosed todo => simp [Machine.outcome?, unclosed, todo]
  | closed closed => simp [Machine.outcome?, closed]

theorem goes_on (doomed : Doomed s e n m) (unfinished : m.outcome? = none) :
    m.progress? (Machine.engine s) ≠ none := by
  intro stuck
  obtain ⟨silent, still⟩ := Machine.progress?_eq_none.mp stuck
  cases doomed with
  | @before R task rest behind todo sim =>
      have unclosed : m.closed = false := sim.unclosed
      have under : (m.withTodo (task :: (rest ++ [.shutdown, .join]))).outcome? = none := by
        simp [Machine.outcome?, Machine.withTodo, unclosed]
      refine sim.goes_on under (Machine.progress?_eq_none.mpr ⟨?_, still⟩)
      cases moved : (m.withTodo (task :: (rest ++ [.shutdown, .join]))).client? with
      | none => rfl
      | some next =>
          have back : (m.withTodo (task :: (rest ++ [.shutdown, .join]))).withTodo
              (task :: (rest ++ .dispatch e :: behind)) = m := by
            rw [← todo]
            rfl
          obtain ⟨-, swapped⟩ | ⟨-, -, swapped⟩ :=
            Machine.client?_swap rfl (rest ++ .dispatch e :: behind) moved
          · rw [back, silent] at swapped
            cases swapped
          · rw [back, silent] at swapped
            cases swapped
  | facing serving todo sent =>
      rw [Machine.client?_send serving.unclosed todo sent] at silent
      cases silent
  | sent serving todo sent fresh nearing => exact nearing.goes_on serving.stands still
  | @broken call behind replies unclosed todo sent halted fresh bound =>
      rw [Machine.client?_wait unclosed todo sent, halted.callStatus fresh] at silent
      cases silent
  | closed closed => simp [Machine.outcome?, closed] at unfinished

theorem stays (doomed : Doomed s e n m) : m.service.hangUp? = none := by
  cases doomed with
  | before todo sim => exact sim.stays
  | facing serving => exact serving.stands.stays
  | sent serving => exact serving.stands.stays
  | broken unclosed todo sent halted => exact halted.stays
  | closed closed halted => exact halted.stays

theorem heads (misfit : ¬ e.Fits) : Machine.Heads (Machine.engine s) none (Doomed s e) where
  client := client
  goes doomed moved := doomed.goes misfit moved
  ends := outcome
  goes_on := goes_on
  stays := stays
  mono := mono

end Doomed

theorem tasksFrom_append (xs ys : List Event) (i : Nat) :
    tasksFrom i (xs ++ ys) = tasksFrom i xs ++ tasksFrom (i + xs.length) ys := by
  induction xs generalizing i with
  | nil => rfl
  | cons e rest ih =>
      simp [tasksFrom, ih, Nat.add_comm, Nat.add_left_comm]

/-- Which events there are makes a difference only to what the client has to do. -/
theorem start_withTodo {s : Scenario} {c : Config} {events : List Event} {m : Machine}
    (started : Machine.start { s with events } c = .ok m) :
    m.todo = tasks events ∧ Machine.start s c = .ok (m.withTodo (tasks s.events)) := by
  unfold Machine.start at *
  rw [show World.ofScenario { s with events } = World.ofScenario s from rfl] at started
  cases spawned : Service.spawn c.maxConcurrent c.commandBuffer (World.ofScenario s) with
  | error p => rw [spawned] at started; cases started
  | ok service =>
      rw [spawned] at started
      cases started
      exact ⟨rfl, rfl⟩

theorem start_doomed {s : Scenario} {c : Config} (permits : c.maxConcurrent ≤ maxPermits)
    (places : c.commandBuffer ≤ maxPermits) (misrouted : ¬ ∀ e ∈ s.events, e.Fits) :
    ∃ (t : Scenario) (e : Event) (m : Machine), Machine.engine t = Machine.engine s ∧ ¬ e.Fits ∧
      Machine.start s c = .ok m ∧ Doomed t e m.movesLeft m := by
  obtain ⟨e, first⟩ : ∃ e, s.events.find? (fun e => decide (¬ e.Fits)) = some e :=
    Option.isSome_iff_exists.mp (List.find?_isSome.mpr (by simpa using misrouted))
  obtain ⟨misfit, before, behind, split, fitting⟩ := List.find?_eq_some_iff_append.mp first
  have fits : ∀ x ∈ before, x.Fits := fun x member => by simpa using fitting x member
  -- Up to the event nobody can tell the replay from one that ends there.
  obtain ⟨m, started, sim⟩ := start_sim (s := { s with events := before }) permits places fits
  obtain ⟨todo, starts⟩ := start_withTodo started
  have all : tasks s.events = .observe keeper :: ((.observe counter :: tasksFrom 0 before) ++
      .dispatch e :: .flush before.length e ::
        (tasksFrom (before.length + 1) behind ++ [.shutdown, .join])) := by
    simp [tasks, eventTasks_eq, split, tasksFrom_append, tasksFrom]
  have part : tasks before =
      .observe keeper :: ((.observe counter :: tasksFrom 0 before) ++ [.shutdown, .join]) := by
    simp [tasks, eventTasks_eq]
  have same : (m.withTodo (tasks s.events)).withTodo (tasks before) = m := by
    rw [← todo]
    rfl
  refine ⟨{ s with events := before }, e, _, rfl, by simpa using misfit, starts,
    .before all (part ▸ same.symm ▸ sim.mono ?_)⟩
  have longer : (tasks before).length ≤ (tasks s.events).length := by
    rw [all, part]
    simp
  rw [Machine.movesLeft, todo]
  exact Nat.mul_le_mul_left 8 longer

/-- Whatever the events are, every run from the start comes to one and the same end. -/
theorem start_heads {s : Scenario} {c : Config} (permits : c.maxConcurrent ≤ maxPermits)
    (places : c.commandBuffer ≤ maxPermits) : ∃ m P, Machine.start s c = .ok m ∧
      Machine.Heads (Machine.engine s) (if ∀ e ∈ s.events, e.Fits then some (expected s) else none)
        P ∧ P m.movesLeft m := by
  by_cases fits : ∀ e ∈ s.events, e.Fits
  · obtain ⟨m, started, sim⟩ := start_sim permits places fits
    exact ⟨m, _, started, if_pos fits ▸ Sim.heads, sim⟩
  · obtain ⟨t, e, m, same, misfit, started, doomed⟩ := start_doomed permits places fits
    exact ⟨m, _, started, if_neg fits ▸ same ▸ Doomed.heads misfit, doomed⟩

theorem replay_eq {s : Scenario} {c : Config} (valid : c.check = .ok ())
    (permits : c.maxConcurrent ≤ maxPermits) (places : c.commandBuffer ≤ maxPermits) :
    replay s c = if ∀ e ∈ s.events, e.Fits then .ok (expected s) else .error .closed := by
  obtain ⟨m, P, started, heads, here⟩ := start_heads (s := s) permits places
  have ran := heads.runFor here
  by_cases fits : ∀ e ∈ s.events, e.Fits
  · rw [if_pos fits] at ran ⊢
    simp only [replay, valid, started, ran]
  · rw [if_neg fits] at ran ⊢
    simp only [replay, valid, started, ran]

theorem start_within {s : Scenario} {c : Config} {m : Machine} (started : Machine.start s c = .ok m) :
    c.maxConcurrent ≤ maxPermits ∧ c.commandBuffer ≤ maxPermits := by
  unfold Machine.start at started
  cases spawned : Service.spawn c.maxConcurrent c.commandBuffer (World.ofScenario s) with
  | error p => rw [spawned] at started; cases started
  | ok service => exact Service.spawn_within spawned

theorem replay_ok {s : Scenario} {c : Config} {report : Report} (replayed : replay s c = .ok report) :
    c.check = .ok () ∧ c.maxConcurrent ≤ maxPermits ∧ c.commandBuffer ≤ maxPermits ∧
      (∀ e ∈ s.events, e.Fits) ∧ report = expected s := by
  cases valid : c.check with
  | error fault => simp [replay, valid] at replayed
  | ok =>
      obtain ⟨permits, places⟩ : c.maxConcurrent ≤ maxPermits ∧ c.commandBuffer ≤ maxPermits := by
        cases started : Machine.start s c with
        | error p => simp [replay, valid, started] at replayed
        | ok m => exact start_within started
      rw [replay_eq valid permits places] at replayed
      split at replayed
      · next fits =>
          cases replayed
          exact ⟨rfl, permits, places, fits, rfl⟩
      · cases replayed

end Replay

end FilterDispatch
