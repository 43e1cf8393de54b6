import FilterDispatch.Proofs.Replay.Simulation
import FilterDispatch.Proofs.Service.Registrations

/-!
The journal of a replay.  The observer that keeps notifications is registered before anything else is
asked of the service, so it is told of all that is announced; and what it is told is in a record, or
kept for the next one.
-/

namespace FilterDispatch

open Scenario (World counter keeper)

namespace Scenario.World

/-- Between the two, what the keeper was told was added to what is kept. -/
def Keeps (s t : Stage (Desk World)) : Prop :=
  ∃ new, t.effects = s.effects ++ new ∧
    t.host.host.notifications = s.host.host.notifications ++ heard keeper new

instance : IsPreorder (Stage (Desk World)) Keeps where
  refl s := ⟨[], (List.append_nil _).symm, (List.append_nil _).symm⟩
  trans := by
    rintro s t u ⟨first, effects, kept⟩ ⟨later, effects', kept'⟩
    refine ⟨first ++ later, ?_, ?_⟩
    · rw [effects', effects, List.append_assoc]
    · rw [kept', kept, List.append_assoc, heard, heard, heard, List.filterMap_append]

theorem keeps_log {s : Stage (Desk World)} {new : List Effect} {desk : Desk World}
    (unheard : heard keeper new = []) (same : desk.host.notifications = s.host.host.notifications) :
    Keeps s (s.log new desk) :=
  ⟨new, Stage.effects_log new desk s, by rw [unheard, List.append_nil]; exact same⟩

theorem kept : Stage.Kept Keeps where
  resolve frame s := by
    unfold Control.final
    rw [Stage.resolve_apply]
    exact keeps_log rfl rfl
  ancestorsOf live s := by
    unfold Control.final
    rw [Stage.ancestorsOf_apply]
    exact keeps_log rfl rfl
  siteKeyFor urls s := by
    unfold Control.final
    rw [Stage.siteKeyFor_apply]
    exact keeps_log rfl rfl
  classify call s := by
    unfold Control.final
    rw [Stage.classify_apply]
    exact keeps_log rfl rfl
  answer call a s := by
    have answered : Stage.answer call a s =
        .ok () (s.log [.callback call a] (s.host.put call (.answer a))) :=
      Stage.answer_apply call a s
    rw [Control.final_ok answered]
    exact keeps_log rfl rfl
  pass n s := by
    have noted : Stage.note (.pass n) s = .ok () (s.log [.pass n] s.host) := rfl
    rw [Control.final_ok noted]
    exact keeps_log rfl rfl
  tell o n s := by
    unfold Control.final
    rw [Stage.tell_apply]
    refine ⟨[.told o n], Stage.effects_log _ _ s, ?_⟩
    change (s.host.host.observe o n).notifications = _
    rw [observe]
    by_cases own : o = keeper
    · simp [own, heard, Effect.heardBy?]
    · rw [if_neg own]
      split <;> simp [own, heard, Effect.heardBy?]

end Scenario.World

namespace Service

theorem Move.op?_acts {σ : Type} {m : Move σ} {s : Service σ} {op : Dispatcher.Op (Desk σ)}
    (own : m.op? s = some op) : op.changesHost = false := by
  cases m with
  | takeCommand =>
      obtain ⟨⟨call, command⟩, -, own⟩ := Option.bind_eq_some_iff.mp own
      cases command <;> cases own <;> rfl
  | takeOutcome => cases own; rfl
  | start id => cases own; rfl
  | finish id => cases own; rfl
  | _ => cases own

variable {engine : Engine} {m : Move World} {t u : Service World} {behind : List Command}

theorem Step.keeps (step : Step engine t m u) (own : ∀ f, m ≠ .changeHost f) :
    World.Keeps t.dispatcher.stage u.dispatcher.stage := by
  obtain ⟨change, desk, same⟩ := step.act_desk
  have acted : World.Keeps t.dispatcher.stage (m.act engine t).stage := by
    rw [Move.act]
    cases does : m.op? t with
    | none => exact refl_of World.Keeps _
    | some op =>
        change World.Keeps _ (Dispatcher.step engine op t.dispatcher).2.stage
        rw [Dispatcher.step_final]
        exact Dispatcher.perform_along World.kept engine (Move.op?_acts does) t.dispatcher
  obtain ⟨new, effects, kept⟩ := acted
  rw [same]
  exact ⟨new, effects, (congrArg World.notifications (desk own _)).trans kept⟩

/-- The commands that the loop has not taken, with those that are still to be sent. -/
def upcoming (behind : List Command) (t : Service World) : List Command :=
  (t.channel ++ t.arriving).map (·.command) ++ behind

/-- The keeper is told of all that is announced: it is registered, or nothing is under way and it is
the first to be registered. -/
inductive Attends (behind : List Command) (t : Service World) : Prop
  | registered : t.dispatcher.observers.contains keeper = true →
      (∀ c ∈ t.upcoming behind, c.word? keeper = none) → Attends behind t
  | first {rest : List Command} : t.dispatcher.queue.outstanding = [] →
      t.upcoming behind = .addObserver keeper :: rest → (∀ c ∈ rest, c.word? keeper = none) →
      Attends behind t

theorem Goes.step (goes : Goes engine t u) (h : t.dispatcher.InStep engine) :
    ∃ m, Step engine t m u ∧ (∀ f, m ≠ .changeHost f) ∧
      t.arriving = (enters? m t).toList ++ u.arriving := by
  cases goes with
  | enqueue moved =>
      have step : Step engine t .enqueue u := step?_cases engine h moved
      refine ⟨.enqueue, step, by simp, ?_⟩
      cases step with
      | enqueue running arriving room => rw [enter_arriving, enters?, arriving]; rfl
  | takeCommand moved =>
      have step : Step engine t .takeCommand u := step?_cases engine h moved
      refine ⟨.takeCommand, step, by simp, ?_⟩
      cases step with
      | @takeCommand x rest => exact (command_clients engine x rest t).arriving.symm
  | takeOutcome moved =>
      have step : Step engine t .takeOutcome u := step?_cases engine h moved
      refine ⟨.takeOutcome, step, by simp, ?_⟩
      cases step with
      | takeOutcome => exact (outcome_clients engine t).arriving.symm
  | @start id moved =>
      have step : Step engine t (.start id) u := step?_cases engine h moved
      refine ⟨.start id, step, by simp, ?_⟩
      cases step with
      | start => exact (operate_clients engine (.start id) t).arriving.symm
  | @finish id moved =>
      have step : Step engine t (.finish id) u := step?_cases engine h moved
      refine ⟨.finish id, step, by simp, ?_⟩
      cases step with
      | finish => exact (operate_clients engine (.finish id) t).arriving.symm

theorem Step.upcoming (step : Step engine t m u)
    (arriving : t.arriving = (enters? m t).toList ++ u.arriving) (behind : List Command) :
    t.upcoming behind = ((takes? m t).toList.map (·.command)) ++ u.upcoming behind := by
  have line : t.channel ++ t.arriving = (takes? m t).toList ++ (u.channel ++ u.arriving) := by
    rw [arriving, ← List.append_assoc, ← step.channel, List.append_assoc]
  rw [Service.upcoming, Service.upcoming, line, List.map_append, List.append_assoc]

/-- The keeper hears all that a move announces if it is registered then. -/
theorem Step.keeper_hears (step : Step engine t m u) (h : t.dispatcher.InStep engine)
    (distinct : u.dispatcher.observers.entries.Nodup)
    (registered : u.dispatcher.observers.contains keeper = true) :
    heard keeper (Dispatcher.effectsSince t.dispatcher u.dispatcher) =
      announced (Dispatcher.effectsSince t.dispatcher u.dispatcher) := by
  have heeds := step.heeds h fun op _ =>
    Dispatcher.not_upset (fun _ _ _ => ⟨_, rfl⟩) t.dispatcher op
  rw [heeds.heard_eq distinct keeper, if_pos (List.contains_iff_mem.mp registered)]

theorem Step.distinct (step : Step engine t m u) (h : t.dispatcher.InStep engine)
    (distinct : t.dispatcher.observers.entries.Nodup) :
    u.dispatcher.observers.entries.Nodup := by
  obtain ⟨change, same⟩ := step.act
  rw [same]
  change (m.act engine t).observers.entries.Nodup
  rw [Move.act]
  cases m.op? t with
  | none => exact distinct
  | some op => exact Dispatcher.step_distinct engine op h.accounted distinct

theorem Goes.idle (goes : Goes engine t u) (h : t.dispatcher.InStep engine)
    (idle : t.dispatcher.queue.outstanding = []) :
    t.enqueue? = some u ∨ t.takeCommand? = some u := by
  obtain ⟨waiting, running, finished⟩ : t.dispatcher.queue.waiting = [] ∧
      t.dispatcher.queue.running = [] ∧ t.dispatcher.queue.finished = [] := by
    simpa [WorkQueue.outstanding] using idle
  cases goes with
  | enqueue moved => exact .inl moved
  | takeCommand moved => exact .inr moved
  | takeOutcome moved =>
      obtain ⟨-, there, -⟩ := (takeOutcome?_eq_some engine h.accounted).mp moved
      exact absurd finished there
  | start moved => simp [start?, WorkQueue.start?, waiting] at moved
  | finish moved => simp [finish?, WorkQueue.finish?, running] at moved

theorem Attends.step (attends : Attends behind t) (goes : Goes engine t u)
    (h : t.dispatcher.InStep engine) (distinct : t.dispatcher.observers.entries.Nodup) :
    Attends behind u ∧ heard keeper (Dispatcher.effectsSince t.dispatcher u.dispatcher) =
      announced (Dispatcher.effectsSince t.dispatcher u.dispatcher) := by
  obtain ⟨m, step, -, arriving⟩ := goes.step h
  have distinct' := step.distinct h distinct
  cases attends with
  | registered known quiet =>
      rw [step.upcoming arriving behind] at quiet
      obtain ⟨here, later⟩ := List.forall_mem_append.mp quiet
      have registered : u.dispatcher.observers.contains keeper = true := by
        rw [step.contains h fun _ _ => rfl]
        cases takes : takes? m t with
        | none => exact known
        | some x =>
            rw [takes] at here
            rw [Option.bind_some, here x.command List.mem_cons_self]
            exact known
      exact ⟨.registered registered later, step.keeper_hears h distinct' registered⟩
  | first idle next quiet =>
      obtain enqueued | taken := goes.idle h idle
      · obtain ⟨x, rest, waits, -, rfl⟩ := (step?_enqueue engine).mp enqueued
        have same : (t.enter x rest).upcoming behind = t.upcoming behind ∧
            (t.enter x rest).dispatcher.queue = t.dispatcher.queue ∧
            (t.enter x rest).dispatcher.stage.effects = t.dispatcher.stage.effects := by
          rw [enter]
          split <;> simp [Service.upcoming, waits, reply, changeDesk, Dispatcher.changeHost,
            Stage.effects]
        obtain ⟨line, still, silent⟩ := same
        have nothing := Dispatcher.silent_of_same silent
        exact ⟨.first (still ▸ idle) (line.trans next) quiet,
          (heard_muted nothing).trans (announced_muted nothing).symm⟩
      · obtain ⟨x, rest, channel, running, rfl⟩ := (step?_takeCommand engine).mp taken
        have step : Step engine t .takeCommand _ := .takeCommand running channel
        have first : takes? (.takeCommand : Move World) t = some x := by
          rw [takes?, channel]
          rfl
        have line := step.upcoming (command_clients engine x rest t).arriving.symm behind
        rw [first, next] at line
        obtain ⟨own, later⟩ := List.cons.inj line
        have registered := step.contains (o := keeper) h fun _ _ => rfl
        have word : x.command.word? keeper = some true := Command.word?_eq_true.mpr own.symm
        rw [first, Option.bind_some, word] at registered
        rw [later] at quiet
        exact ⟨.registered registered quiet, step.keeper_hears h distinct' registered⟩

end Service

namespace Replay.Machine

variable {e : Engine} {m m' : Machine}

def unsent (m : Machine) : List Command :=
  (if m.sent.isSome then m.todo.tail else m.todo).filterMap (·.command? m.snapshot)

theorem unsent_of_sent {task : Task} {rest : List Task} {call : CallId}
    (todo : m.todo = task :: rest) (sent : m.sent = some call) :
    m.unsent = rest.filterMap (·.command? m.snapshot) := by
  rw [unsent, sent, todo]
  rfl

/-- All that was announced is in a record, or kept for the next one. -/
structure Noted (e : Engine) (m : Machine) : Prop where
  inStep : m.service.dispatcher.InStep e
  distinct : m.service.dispatcher.observers.entries.Nodup
  attends : m.service.isRunning = true → m.service.Attends m.unsent
  noted : announced m.service.dispatcher.stage.effects =
    m.records.reverse.flatMap (·.notifications) ++ m.notifications

theorem Noted.goes (noted : Noted e m) (running : m.service.isRunning = true) {u : Service World}
    (goes : Service.Goes e m.service u) : Noted e { m with service := u } := by
  obtain ⟨inStep, distinct, attends, noted⟩ := noted
  obtain ⟨move, step, own, -⟩ := goes.step inStep
  obtain ⟨onward, hears⟩ := (attends running).step goes inStep distinct
  obtain ⟨new, effects, kept⟩ := step.keeps own
  rw [Dispatcher.effectsSince_eq effects] at hears
  refine ⟨step.inStep e inStep, step.distinct inStep distinct, fun _ => onward, ?_⟩
  have told : announced u.dispatcher.stage.effects =
      announced m.service.dispatcher.stage.effects ++ announced new := by
    rw [effects, announced, List.filterMap_append]
    rfl
  rw [told, noted, ← hears, List.append_assoc]
  exact congrArg _ kept.symm

/-- A task is done: what was kept is in the record of its event, if it ends one. -/
theorem Noted.finishTask (noted : Noted e m) (r : Reply) {task : Task} {rest : List Task}
    (todo : m.todo = task :: rest) (sent : m.sent = none → task.command? m.snapshot = none) :
    Noted e (m.finishTask r rest task) := by
  obtain ⟨inStep, distinct, attends, noted⟩ := noted
  have unsent : m.unsent = rest.filterMap (·.command? m.snapshot) := by
    cases waits : m.sent with
    | none => simp [Machine.unsent, todo, waits, sent waits]
    | some call => exact unsent_of_sent todo waits
  rw [unsent] at attends
  cases task with
  | flush index event =>
      have cleared := Service.changeDesk_leads e
        (fun d => { d with host := { d.host with notifications := [] } }) m.service
      refine ⟨cleared.inStep inStep, distinct, fun running => ?_, ?_⟩
      · cases attends running with
        | registered known quiet => exact .registered known quiet
        | first idle next quiet => exact .first idle next quiet
      · have kept : announced m.service.dispatcher.stage.effects = (m.records.reverse ++
            [Record.mk index event m.reply m.notifications]).flatMap Record.notifications ++ [] := by
          simpa using noted
        rw [← List.reverse_cons] at kept
        exact kept
  | observe o => exact ⟨inStep, distinct, attends, noted⟩
  | dispatch event => exact ⟨inStep, distinct, attends, noted⟩
  | shutdown => exact ⟨inStep, distinct, attends, noted⟩
  | join => exact ⟨inStep, distinct, attends, noted⟩

theorem Noted.client (noted : Noted e m) (moved : m.client? = some m') : Noted e m' := by
  cases client?_cases moved with
  | @sends task rest c todo sent sends =>
      obtain ⟨inStep, distinct, attends, noted⟩ := noted
      have same : (m.service.send m.nextCall c).dispatcher = m.service.dispatcher := by
        rw [Service.send]
        split <;> rfl
      have notified : (m.service.send m.nextCall c).host = m.service.host :=
        congrArg (·.stage.host.host) same
      refine ⟨same ▸ inStep, same ▸ distinct, fun running => ?_, ?_⟩
      · have running := (Service.send_isRunning m.nextCall c m.service).symm.trans running
        have line : (m.service.send m.nextCall c).upcoming
            (rest.filterMap (·.command? m.snapshot)) = m.service.upcoming m.unsent := by
          rw [Service.send_of_running _ _ running]
          simp [Service.upcoming, unsent, todo, sent, sends]
        rw [unsent_of_sent (m := { m with
          service := m.service.send m.nextCall c, sent := some m.nextCall,
          nextCall := m.nextCall + 1 }) todo rfl]
        cases attends running with
        | registered known quiet => exact .registered (same ▸ known) (line ▸ quiet)
        | first idle next quiet => exact .first (same ▸ idle) (line.trans next) quiet
      · change announced (m.service.send m.nextCall c).dispatcher.stage.effects =
          m.records.reverse.flatMap (·.notifications) ++
            (m.service.send m.nextCall c).host.notifications
        rw [same, notified]
        exact noted
  | finishes r todo sent => exact noted.finishTask r todo sent
  | closes => exact ⟨noted.inStep, noted.distinct, noted.attends, noted.noted⟩

end Replay.Machine

end FilterDispatch
