import FilterDispatch.Proofs.Stress.Serving
import FilterDispatch.Stress.Machine

/-!
Runs of a stress machine.  Until the last answer is collected each request is unsent, awaited or
collected, and the service rules on what was sent; then the service takes its leave.  Every move
brings the end nearer, and before the end there is a move to make.
-/

namespace FilterDispatch

open Scenario (World)

namespace Service

variable {engine : Engine} {t u : Service World} {call : CallId} {n : Nat}

/-- Nothing is on its way, and nobody waits for that. -/
structure Idle (t : Service World) : Prop where
  jobs : t.dispatcher.queue.movesLeft = 0
  unflushed : t.flushWaiters = []

/-- The service has only to shut down, and does it with so many moves. -/
inductive Leaving (call : CallId) : Nat → Service World → Prop
  | sent {t : Service World} : t.Idle → t.isRunning = true → 0 < t.capacity →
      t.arriving = [⟨call, .shutdown⟩] → t.channel = [] → t.desk.reply? call = none →
      Leaving call 2 t
  | entered {t : Service World} : t.Idle → t.isRunning = true → t.arriving = [] →
      t.channel = [⟨call, .shutdown⟩] → t.desk.reply? call = some .done → Leaving call 1 t
  | stopped {t : Service World} : t.Idle → t.status = .stopped → t.desk.reply? call = some .done →
      Leaving call 0 t

theorem Idle.goes (idle : t.Idle) (goes : Goes engine t u) :
    t.enqueue? = some u ∨ t.takeCommand? = some u := by
  have none := WorkQueue.movesLeft_eq_zero.mp idle.jobs
  simp only [WorkQueue.outstanding, List.append_eq_nil_iff, List.map_eq_nil_iff] at none
  obtain ⟨⟨waiting, running⟩, finished⟩ := none
  cases goes with
  | enqueue moved => exact .inl moved
  | takeCommand moved => exact .inr moved
  | takeOutcome moved =>
      obtain ⟨f, queue, found, -⟩ := Service.takeOutcome?_taken moved
      rw [WorkQueue.tryNext_eq_none.mpr finished] at found
      cases found
  | start moved => simp [start?, WorkQueue.start?, waiting] at moved
  | finish moved => simp [finish?, WorkQueue.finish?, running] at moved

theorem Leaving.goes (leaving : t.Leaving call n) (goes : Goes engine t u) :
    ∃ k < n, u.Leaving call k := by
  cases leaving with
  | sent idle running room arriving channel unanswered =>
      rcases idle.goes goes with moved | moved
      · rw [enqueue?, arriving] at moved
        simp only [running, channel, List.length_nil, room, decide_true, Bool.and_self, if_true,
          Command.wantsReply, Bool.false_eq_true, if_false, Option.some.injEq] at moved
        subst moved
        exact ⟨1, by decide, .entered ⟨idle.jobs, idle.unflushed⟩ running rfl rfl
          (by simp [desk, reply, changeDesk, Dispatcher.changeHost, Desk.put, Desk.reply?])⟩
      · rw [takeCommand?, channel] at moved
        cases moved
  | entered idle running arriving channel answered =>
      rcases idle.goes goes with moved | moved
      · rw [enqueue?, arriving] at moved
        cases moved
      · rw [takeCommand?, channel] at moved
        simp only [running, if_true, Option.some.injEq] at moved
        subst moved
        have quiet := answerFlushes_nobody
          (t := { t with channel := [], status := .stopped }) idle.unflushed
        refine ⟨0, by decide, ?_⟩
        change (answerFlushes { t with channel := [], status := .stopped }).Leaving call 0
        rw [quiet]
        exact .stopped ⟨idle.jobs, idle.unflushed⟩ rfl answered
  | stopped idle status answered =>
      have ended : t.isRunning = false := by
        rw [isRunning, status]
        rfl
      rcases idle.goes goes with moved | moved
      · cases arriving : t.arriving <;> simp [enqueue?, arriving, ended] at moved
      · cases channel : t.channel <;> simp [takeCommand?, channel, ended] at moved

theorem Leaving.moves (leaving : t.Leaving call (n + 1)) : ∃ u, Goes engine t u := by
  cases leaving with
  | sent idle running room arriving channel unanswered =>
      have enters : t.enqueue? ≠ none := by simp [enqueue?, arriving, running, channel, room]
      obtain ⟨u, moved⟩ := Option.ne_none_iff_exists'.mp enters
      exact ⟨u, .enqueue moved⟩
  | entered idle running arriving channel answered =>
      have leaves : t.takeCommand? ≠ none := by simp [takeCommand?, channel, running]
      obtain ⟨u, moved⟩ := Option.ne_none_iff_exists'.mp leaves
      exact ⟨u, .takeCommand moved⟩

end Service

namespace Stress.Machine

variable {s : Scenario} {ruling : CallId → MatchResult} {requests n : Nat} {m m' : Machine}
  {call : CallId} {u : Service World}

/-- All that a move can do: the client makes one, or the service goes on. -/
inductive Step (m : Machine) : Machine → Prop
  | send {id : CallId} {n : Machine} : m.send? id = some n → Step m n
  | collect {id : CallId} {n : Machine} : m.collect? id = some n → Step m n
  | client {n : Machine} : m.client? = some n → Step m n
  | goes {t : Service World} : Service.Goes m.engine m.service t → Step m { m with service := t }

theorem step?_cases {move : Move} (moved : m.step? move = some m') : Step m m' := by
  have served {r : Option (Service World)}
      (all : ∀ u, r = some u → Service.Goes m.engine m.service u)
      (moved : m.withService r = some m') : Step m m' := by
    cases r with
    | none => cases moved
    | some u =>
        cases moved
        exact .goes (all u rfl)
  cases move with
  | send call => exact .send moved
  | collect call => exact .collect moved
  | client => exact .client moved
  | enqueue => exact served (fun _ => .enqueue) moved
  | takeCommand => exact served (fun _ => .takeCommand) moved
  | takeOutcome => exact served (fun _ => .takeOutcome) moved
  | start id => exact served (fun _ => .start) moved
  | finish id => exact served (fun _ => .finish) moved

theorem step?_goes (goes : Service.Goes m.engine m.service u) :
    ∃ move, m.step? move = some { m with service := u } := by
  cases goes with
  | enqueue moved => exact ⟨.enqueue, congrArg m.withService moved⟩
  | takeCommand moved => exact ⟨.takeCommand, congrArg m.withService moved⟩
  | takeOutcome moved => exact ⟨.takeOutcome, congrArg m.withService moved⟩
  | @start id moved => exact ⟨.start id, congrArg m.withService moved⟩
  | @finish id moved => exact ⟨.finish id, congrArg m.withService moved⟩

theorem send?_eq_some (moved : m.send? call = some m') :
    m.phase = .measuring ∧ ∃ before x after, m.unsent = before ++ x :: after ∧ x.call = call ∧
      m' = { m with
        service := m.service.send x.call x.command
        unsent := before ++ after
        awaited := call :: m.awaited } := by
  unfold send? at moved
  split at moved
  · next x phase found =>
      obtain ⟨own, before, after, split, others⟩ := List.find?_eq_some_iff_append.mp found
      have left : m.unsent.eraseP (fun y => y.call = call) = before ++ after := by
        rw [split, List.eraseP_append_right _ fun y member => by simpa using others y member,
          List.eraseP_cons, own, cond_true]
      rw [left] at moved
      exact ⟨phase, before, x, after, split, of_decide_eq_true own, (Option.some.inj moved).symm⟩
  · cases moved

/-- Each request is unsent, awaited or collected, and the service rules on all that was sent. -/
structure Measures (s : Scenario) (ruling : CallId → MatchResult) (requests : Nat) (m : Machine) :
    Prop where
  engine : m.engine = Scenario.engine s.ownTables
  count : m.requests = requests
  phase : m.phase = .measuring
  rules : m.service.Rules s ruling
  poses : ∀ x ∈ m.unsent, Service.Poses s ruling x
  each : (m.unsent.map (·.call) ++ m.service.calls).Perm (List.range requests)
  made : m.service.calls.Perm (m.awaited ++ m.collected.map (·.1))
  collected : ∀ x ∈ m.collected, (x.1, .answer (.result x.2)) ∈ m.service.desk.replies

/-- One answer to each request, as it is ruled. -/
structure Collected (ruling : CallId → MatchResult) (requests : Nat)
    (answers : List (CallId × MatchResult)) : Prop where
  each : (answers.map (·.1)).Perm (List.range requests)
  ruled : ∀ x ∈ answers, x.2 = ruling x.1

inductive Leaves (call : CallId) : Phase → Nat → Prop
  | stopping : Leaves call (.stopping call) 2
  | joining : Leaves call .joining 1
  | done : Leaves call .done 0

/-- Where a run is, and a bound on the moves that are left. -/
inductive Underway (s : Scenario) (ruling : CallId → MatchResult) (requests : Nat) :
    Nat → Machine → Prop
  | measuring {m : Machine} : Measures s ruling requests m → Underway s ruling requests
      (7 * m.unsent.length + m.awaited.length + m.service.movesLeft + 4) m
  | leaving {m : Machine} {call : CallId} {k n : Nat} : Leaves call m.phase k →
      m.service.Leaving call n → (k = 0 → n = 0) → m.requests = requests →
      Collected ruling requests m.collected → Underway s ruling requests (n + k) m

theorem Measures.goes (measures : Measures s ruling requests m)
    (goes : Service.Goes m.engine m.service u) :
    Measures s ruling requests { m with service := u } ∧ u.movesLeft < m.service.movesLeft := by
  rw [measures.engine] at goes
  have later := measures.rules.goes goes
  refine ⟨⟨measures.engine, measures.count, measures.phase, later.rules, measures.poses, ?_, ?_,
    fun x member => later.replies (measures.collected x member)⟩, later.fewer⟩
  · rw [later.calls]
    exact measures.each
  · rw [later.calls]
    exact measures.made

theorem Measures.send (measures : Measures s ruling requests m)
    (moved : m.send? call = some m') : ∃ k <
      7 * m.unsent.length + m.awaited.length + m.service.movesLeft + 4,
      Underway s ruling requests k m' := by
  obtain ⟨-, before, x, after, split, rfl, rfl⟩ := send?_eq_some moved
  have distinct := measures.each.nodup_iff.mpr List.nodup_range
  have each := measures.each
  rw [split, List.map_append, List.map_cons] at each distinct
  have fresh : x.call ∉ m.service.calls := fun old =>
    (List.nodup_append.mp distinct).2.2 x.call (List.mem_append_right _ List.mem_cons_self)
      x.call old rfl
  obtain ⟨rules, more⟩ := measures.rules.send
    (measures.poses x (split ▸ List.mem_append_right _ List.mem_cons_self)) fresh
  have calls := Service.send_calls x.call x.command m.service
  refine ⟨_, ?_, .measuring ⟨measures.engine, measures.count, measures.phase, rules, ?_, ?_, ?_,
    ?_⟩⟩
  · simp only [more, split, List.length_append, List.length_cons]
    omega
  · intro y member
    have sub := (List.sublist_cons_self x after).append_left before
    exact measures.poses y (split ▸ sub.subset member)
  · rw [calls, List.map_append]
    refine (List.perm_middle.trans ?_).trans each
    rw [← List.cons_append]
    exact List.perm_middle.symm.append_right _
  · rw [calls]
    exact measures.made.cons x.call
  · intro y member
    rw [Service.desk, Service.send_of_running _ _ measures.rules.running]
    exact measures.collected y member

theorem Measures.collect (measures : Measures s ruling requests m)
    (moved : m.collect? call = some m') : ∃ k <
      7 * m.unsent.length + m.awaited.length + m.service.movesLeft + 4,
      Underway s ruling requests k m' := by
  simp only [collect?, measures.phase] at moved
  obtain ⟨awaited, moved⟩ := Option.ite_none_right_eq_some.mp moved
  rcases measures.rules.callStatus call with waits | answered
  · rw [waits] at moved
    cases moved
  · simp only [answered, Option.some.injEq] at moved
    subst moved
    have own := List.perm_cons_erase (List.contains_iff_mem.mp awaited)
    have fewer := own.length_eq
    rw [List.length_cons] at fewer
    refine ⟨_, ?_, .measuring ⟨measures.engine, measures.count, rfl, measures.rules,
      measures.poses, measures.each, ?_, ?_⟩⟩
    · simp only
      omega
    · refine (measures.made.trans (own.append_right _)).trans ?_
      rw [List.map_cons]
      exact List.perm_middle.symm
    · intro x member
      rcases List.mem_cons.mp member with rfl | before
      · exact measures.rules.ledger.answered_iff.mp answered
      · exact measures.collected x before

theorem Measures.quiet (measures : Measures s ruling requests m) (awaited : m.awaited = []) :
    m.service.movesLeft = 1 := by
  rw [measures.rules.quiet_iff]
  intro call made waits
  have there := measures.made.mem_iff.mp made
  rw [awaited, List.nil_append] at there
  obtain ⟨x, member, rfl⟩ := List.mem_map.mp there
  have answered := measures.rules.ledger.answered_iff.mpr (measures.collected x member)
  rw [answered] at waits
  cases waits

theorem Measures.client (measures : Measures s ruling requests m) (moved : m.client? = some m') :
    ∃ k < 7 * m.unsent.length + m.awaited.length + m.service.movesLeft + 4,
      Underway s ruling requests k m' := by
  simp only [client?, measures.phase] at moved
  obtain ⟨ended, moved⟩ := Option.ite_none_right_eq_some.mp moved
  simp only [Bool.and_eq_true, List.isEmpty_iff] at ended
  obtain ⟨unsent, awaited⟩ := ended
  have quiet := measures.quiet awaited
  obtain ⟨made, each⟩ := And.intro measures.made measures.each
  rw [awaited, List.nil_append] at made
  rw [unsent, List.map_nil, List.nil_append] at each
  have fresh : m.service.desk.reply? m.requests = none := by
    rw [Desk.reply?_eq_none]
    intro there
    have old := each.mem_iff.mp (measures.rules.ledger.made (List.mem_append_right _ there))
    rw [measures.count] at old
    exact absurd (List.mem_range.mp old) (Nat.lt_irrefl _)
  rw [Service.movesLeft_eq] at quiet
  have arriving : m.service.arriving = [] := List.length_eq_zero_iff.mp (by omega)
  have channel : m.service.channel = [] := List.length_eq_zero_iff.mp (by omega)
  have jobs : m.service.dispatcher.queue.movesLeft = 0 := by omega
  cases moved
  refine ⟨2 + 2, ?_, .leaving .stopping ?_ (fun none => absurd none (by decide)) measures.count
    ⟨made.symm.trans each, ?_⟩⟩
  · rw [Service.movesLeft_eq]
    omega
  · rw [Service.send_of_running _ _ measures.rules.running, arriving]
    exact .sent ⟨jobs, measures.rules.unflushed⟩ measures.rules.running measures.rules.room rfl
      channel fresh
  · intro x member
    have told := measures.rules.dispatcher.told x.1 _ (measures.collected x member)
    simpa using told

theorem Leaves.client {k : Nat} (leaves : Leaves call m.phase k)
    (leaving : m.service.Leaving call n) (moved : m.client? = some m') :
    ∃ phase j, j < k ∧ Leaves call phase j ∧ (j = 0 → n = 0) ∧ m' = { m with phase } := by
  have runs {t : Service World} (running : t.isRunning = true) : t.status = .running :=
    of_decide_eq_true running
  unfold client? at moved
  generalize m.phase = phase at leaves moved
  cases leaves with
  | stopping =>
      cases leaving with
      | sent idle running room arriving channel unanswered =>
          simp [Service.callStatus_eq_outstanding.mpr ⟨unanswered, running⟩] at moved
      | entered idle running arriving channel answered =>
          simp only [Service.callStatus_eq_answered.mpr answered, Option.some.injEq] at moved
          exact ⟨.joining, 1, by decide, .joining, nofun, moved.symm⟩
      | stopped idle status answered =>
          simp only [Service.callStatus_eq_answered.mpr answered, Option.some.injEq] at moved
          exact ⟨.joining, 1, by decide, .joining, nofun, moved.symm⟩
  | joining =>
      cases leaving with
      | sent idle running => simp [runs running] at moved
      | entered idle running => simp [runs running] at moved
      | stopped idle status answered =>
          simp only [status, Option.some.injEq] at moved
          exact ⟨.done, 0, by decide, .done, fun _ => rfl, moved.symm⟩
  | done => cases moved

/-- Every move brings the end nearer. -/
theorem Underway.step (underway : Underway s ruling requests n m) (step : Step m m') :
    ∃ k < n, Underway s ruling requests k m' := by
  cases underway with
  | measuring measures =>
      cases step with
      | send moved => exact measures.send moved
      | collect moved => exact measures.collect moved
      | client moved => exact measures.client moved
      | goes goes =>
          obtain ⟨still, fewer⟩ := measures.goes goes
          exact ⟨_, by simp only; omega, .measuring still⟩
  | leaving leaves leaving last count collected =>
      cases step with
      | send moved =>
          obtain ⟨phase, -⟩ := send?_eq_some moved
          rw [phase] at leaves
          cases leaves
      | collect moved =>
          unfold collect? at moved
          generalize m.phase = phase at leaves moved
          cases leaves <;> cases moved
      | client moved =>
          obtain ⟨phase, j, less, leaves, last, rfl⟩ := leaves.client leaving moved
          exact ⟨_, by omega, .leaving leaves leaving last count collected⟩
      | goes goes =>
          obtain ⟨j, less, still⟩ := leaving.goes goes
          refine ⟨_, by omega, .leaving leaves still (fun none => ?_) count collected⟩
          have last := last none
          omega

theorem Underway.goes_on (underway : Underway s ruling requests n m) {latency : CallId → Float}
    (unfinished : m.outcome? latency = none) : ∃ move next, m.step? move = some next := by
  have served (more : ∃ u, Service.Goes m.engine m.service u) :
      ∃ move next, m.step? move = some next := by
    obtain ⟨u, goes⟩ := more
    obtain ⟨move, moved⟩ := step?_goes goes
    exact ⟨move, _, moved⟩
  cases underway with
  | measuring measures =>
      cases unsent : m.unsent with
      | cons x rest =>
          have sends : m.step? (.send x.call) ≠ none := by
            simp [step?, send?, measures.phase, unsent]
          exact ⟨_, Option.ne_none_iff_exists'.mp sends⟩
      | nil =>
          cases awaited : m.awaited with
          | nil =>
              have leaves : m.step? .client ≠ none := by
                simp [step?, client?, measures.phase, unsent, awaited]
              exact ⟨_, Option.ne_none_iff_exists'.mp leaves⟩
          | cons call rest =>
              by_cases quiet : m.service.movesLeft = 1
              · have made : call ∈ m.service.calls := measures.made.mem_iff.mpr (by simp [awaited])
                have answered := (measures.rules.callStatus call).resolve_left
                  (measures.rules.quiet_iff.mp quiet call made)
                have collects : m.step? (.collect call) ≠ none := by
                  simp [step?, collect?, measures.phase, awaited, answered]
                exact ⟨_, Option.ne_none_iff_exists'.mp collects⟩
              · have more := mt measures.rules.goes_on quiet
                obtain ⟨u, moved⟩ := Option.ne_none_iff_exists'.mp more
                have goes := Service.progress?_goes measures.rules.stays moved
                exact served ⟨u, measures.engine ▸ goes⟩
  | @leaving m call k n leaves leaving last count collected =>
      cases n with
      | succ n => exact served leaving.moves
      | zero =>
          cases leaving with
          | stopped idle status answered =>
              have left : m.client? ≠ none := by
                have told := Service.callStatus_eq_answered.mpr answered
                unfold outcome? at unfinished
                unfold client?
                generalize m.phase = phase at leaves unfinished ⊢
                cases leaves with
                | stopping => simp [told]
                | joining => simp [status]
                | done => cases unfinished
              exact ⟨.client, Option.ne_none_iff_exists'.mp left⟩

/-- A run makes no more moves than were left. -/
theorem Underway.run {moves : List Move} (underway : Underway s ruling requests n m)
    (ran : run? moves m = some m') :
    ∃ k, Underway s ruling requests k m' ∧ moves.length + k ≤ n := by
  induction moves generalizing m n with
  | nil =>
      cases ran
      exact ⟨n, underway, by simp⟩
  | cons move rest ih =>
      unfold run? at ran
      cases moved : m.step? move with
      | none => rw [moved] at ran; cases ran
      | some u =>
          rw [moved] at ran
          obtain ⟨j, less, onward⟩ := underway.step (step?_cases moved)
          obtain ⟨k, there, le⟩ := ih onward ran
          exact ⟨k, there, by simp only [List.length_cons]; omega⟩

theorem Underway.outcome (underway : Underway s ruling requests n m) {latency : CallId → Float}
    {outcome : Except Breakdown Summary} (ended : m.outcome? latency = some outcome) :
    outcome = .ok (m.summary latency) ∧ m.requests = requests ∧
      Collected ruling requests m.collected := by
  cases underway with
  | measuring measures => simp [outcome?, measures.phase] at ended
  | leaving leaves leaving last count collected =>
      refine ⟨?_, count, collected⟩
      unfold outcome? at ended
      generalize m.phase = phase at leaves ended
      cases leaves with
      | stopping => cases ended
      | joining => cases ended
      | done => exact (Option.some.inj ended).symm

end Stress.Machine

end FilterDispatch
