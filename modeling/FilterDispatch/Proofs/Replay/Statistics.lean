import FilterDispatch.Proofs.Replay.Journal
import FilterDispatch.Proofs.Replay.Misrouted
import FilterDispatch.Proofs.Stats

/-!
The statistics of a replay.  One observer keeps the notifications of each event, another counts them;
at the end the counts tally the matches of all records, and the records have all that was announced.
-/

namespace FilterDispatch.Replay

open Scenario (Event World counter keeper)

theorem eventCommand_wordless (s : Snapshot) (e : Event) (o : ObserverId) :
    (eventCommand s e).word? o = none := by
  cases e <;> rfl

theorem tasksFrom_wordless (s : Snapshot) (events : List Event) (i : Nat) (o : ObserverId) :
    ∀ c ∈ (tasksFrom i events ++ [Task.shutdown, Task.join]).filterMap (Task.command? s),
      c.word? o = none := by
  induction events generalizing i with
  | nil => exact List.forall_mem_cons.mpr ⟨rfl, List.forall_mem_nil _⟩
  | cons e rest ih =>
      exact List.forall_mem_cons.mpr ⟨eventCommand_wordless s e o,
        List.forall_mem_cons.mpr ⟨rfl, ih (i + 1)⟩⟩

theorem start_noted {s : Scenario} {c : Config} {m : Machine}
    (started : Machine.start s c = .ok m) : Machine.Noted (Machine.engine s) m := by
  unfold Machine.start at started
  cases spawned : Service.spawn c.maxConcurrent c.commandBuffer (World.ofScenario s) with
  | error p => rw [spawned] at started; cases started
  | ok service =>
      rw [spawned] at started
      cases started
      obtain ⟨inStep, -, -⟩ := Service.spawn_sound spawned (Machine.engine s)
      obtain ⟨empty, idle⟩ := Service.spawn_vacant spawned
      obtain ⟨d, made, rfl⟩ := Service.spawn_eq_ok spawned
      obtain ⟨-, -, silent⟩ := Dispatcher.new_inStep (Machine.engine s) made
      refine ⟨inStep, ?_, fun _ => .first idle rfl ?_, ?_⟩
      · rw [show d.observers = {} from empty]
        exact List.nodup_nil
      · rw [eventTasks_eq]
        exact List.forall_mem_cons.mpr ⟨rfl, tasksFrom_wordless s.snapshot s.events 0 keeper⟩
      · change announced d.stage.effects = d.stage.host.host.notifications
        rw [silent, Dispatcher.new_host made]
        rfl

namespace Sim

variable {s : Scenario} {R : Report} {n : Nat} {m : Machine}

theorem running_of_goes (sim : Sim s R n m) {u : Service World}
    (moved : Service.Goes (Scenario.engine s.ownTables) m.service u) :
    m.service.isRunning = true := by
  cases sim with
  | between serving => exact serving.stands.isRunning
  | awaiting serving => exact serving.stands.isRunning
  | stopped unclosed stopped => exact absurd moved stopped.halted.still

theorem collected (sim : Sim s R n m) (ended : m.outcome? ≠ none) :
    m.notifications = [] ∧ R.records = m.records.reverse := by
  cases sim with
  | between serving sent quiet agenda =>
      cases todo : m.todo with
      | nil => rw [todo] at agenda; cases agenda
      | cons task rest => simp [Machine.outcome?, serving.unclosed, todo] at ended
  | awaiting serving todo => simp [Machine.outcome?, serving.unclosed, todo] at ended
  | stopped unclosed stopped leaving closes =>
      have world : m.service.host = _ := congrArg Scene.world stopped.scene
      exact ⟨(congrArg World.notifications world).trans closes.collected,
        (congrArg Report.records closes.report).symm⟩

theorem noted_heads : Machine.Heads (Machine.engine s) (some R)
    (fun n m => Sim s R n m ∧ m.Noted (Machine.engine s)) where
  client here moved := by
    obtain ⟨k, less, there⟩ := here.1.client moved
    exact ⟨k, less, there, here.2.client moved⟩
  goes here moved := by
    obtain ⟨k, less, there⟩ := here.1.goes moved
    exact ⟨k, less, there, here.2.goes (here.1.running_of_goes moved) moved⟩
  ends here := here.1.outcome
  goes_on here := here.1.goes_on
  stays here := here.1.stays
  mono here le := ⟨here.1.mono le, here.2⟩

end Sim

/-- The counts of a replay that succeeds are, for each subscription, how many of the notifications in
its records are of resources that it allowed or blocked.  Whatever order the moves fall in, the records
have every notification that was announced, and in turn. -/
theorem stats_tally_records {s : Scenario} {c : Config} {report : Report}
    (replayed : replay s c = .ok report) :
    report.stats.allowed.Tally .allowRule (report.records.flatMap (·.notifications)) ∧
    report.stats.blocked.Tally .blockRule (report.records.flatMap (·.notifications)) ∧
    ∃ start, Machine.start s c = .ok start ∧
      ∀ moves m, Machine.run? (Machine.engine s) moves start = some m →
        match m.outcome? with
        | some outcome => outcome = some report ∧
          announced m.service.dispatcher.stage.effects =
            report.records.flatMap (·.notifications)
        | none => ∃ move next, m.step? (Machine.engine s) move = some next := by
  obtain ⟨-, permits, places, fits, rfl⟩ := replay_ok replayed
  have observed := SessionStats.started.foldl ((expected s).records.flatMap (·.notifications))
  refine ⟨observed.allowed.tally observed.allows, observed.blocked.tally observed.blocks, ?_⟩
  obtain ⟨start, started, sim⟩ := start_sim permits places fits
  refine ⟨start, started, fun moves m ran => ?_⟩
  obtain ⟨k, ⟨there, noted⟩, -⟩ := Sim.noted_heads.run ⟨sim, start_noted started⟩ ran
  obtain unfinished | done := there.outcome
  · rw [unfinished]
    exact Sim.noted_heads.can_move ⟨there, noted⟩ unfinished
  · obtain ⟨nothing, same⟩ := there.collected (by simp [done])
    rw [done]
    refine ⟨rfl, ?_⟩
    rw [noted.noted, nothing, List.append_nil, same]

/-- Two ads are counted, and the popup between them is not. -/
theorem blocked_ads_tallied :
    let ad : Url := ⟨"https://b.example/ads.js"⟩
    let list : Url := ⟨"https://list.example/"⟩
    let s : Scenario :=
      { frames := [{ live := ⟨⟨1, 1⟩, ⟨"https://a.example/"⟩⟩ }]
        tables := [{ subscription := list, block := ["ads"] }]
        events := [.request ad .script ⟨1, 1⟩, .popup ad ⟨1, 1⟩, .response ad .script ⟨1, 1⟩ {}] }
    ∃ report, replay s {} = .ok report ∧
      report.stats.blocked.Tally .blockRule (report.records.flatMap (·.notifications)) ∧
      (report.records.map (·.notifications.length), report.stats.blocked) =
        ([1, 1, 1], [(list, 2)]) := by
  intro ad list s
  have replayed : replay s {} = .ok (expected s) :=
    (replay_eq rfl (by decide) (by decide)).trans (if_pos (by decide +kernel))
  exact ⟨expected s, replayed, (stats_tally_records replayed).2.1, by decide +kernel⟩

end FilterDispatch.Replay
