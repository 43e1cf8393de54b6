import FilterDispatch.CommandLine.Basic
import FilterDispatch.Proofs.Replay.Misrouted

/-!
What the program prints of a replay: all of it once it has succeeded, and nothing otherwise.  With
settings that can be used the only replays that fail are those with an event that goes by the wrong
call, and these fail always.
-/

namespace FilterDispatch.CommandLine

open Replay (Machine expected notificationJson statsLine)

variable {s : Scenario} {c : Config}

/-- The scenario is read first; settings are only read for a scenario. -/
theorem runReplay_run (read : Read Id) (o : ReplayOptions) : (runReplay read o).run =
    match (loadScenario read o.scenario).run with
    | .error fault => ⟨[], .failure (fault.message Scenario.Fault.message)⟩
    | .ok s =>
      match (optionalConfig read o.config).run with
      | .error fault => ⟨[], .failure (fault.message Config.Fault.message)⟩
      | .ok c => replayed s c := by
  unfold runReplay
  simp only [Id.run_bind]
  cases (loadScenario read o.scenario).run with
  | error fault => rfl
  | ok s =>
      simp only [Id.run_bind]
      cases (optionalConfig read o.config).run with
      | error fault => rfl
      | ok c => rfl

theorem replayed_of_fault {fault : Replay.Fault} (failed : Replay.replay s c = .error fault) :
    (replayed s c).lines = [] ∧ (replayed s c).ending ≠ .success := by
  rw [replayed, failed]
  cases fault <;> exact ⟨rfl, nofun⟩

theorem replayed_of_report {report : Replay.Report} (succeeds : Replay.replay s c = .ok report) :
    replayed s c = ⟨report.lines, .success⟩ := by
  rw [replayed, succeeds]

theorem runReplay_cases (read : Read Id) (o : ReplayOptions) :
    (∃ s c report, (loadScenario read o.scenario).run = .ok s ∧
      (optionalConfig read o.config).run = .ok c ∧ Replay.replay s c = .ok report ∧
      (runReplay read o).run = ⟨report.lines, .success⟩) ∨
    ((∀ s c report, (loadScenario read o.scenario).run = .ok s →
      (optionalConfig read o.config).run = .ok c → Replay.replay s c ≠ .ok report) ∧
      (runReplay read o).run.lines = [] ∧ (runReplay read o).run.ending ≠ .success) := by
  rw [runReplay_run]
  cases (loadScenario read o.scenario).run with
  | error fault => exact .inr ⟨nofun, rfl, nofun⟩
  | ok s =>
      cases (optionalConfig read o.config).run with
      | error fault => exact .inr ⟨nofun, rfl, nofun⟩
      | ok c =>
          cases ran : Replay.replay s c with
          | ok report => exact .inl ⟨s, c, report, rfl, rfl, ran, replayed_of_report ran⟩
          | error fault =>
              refine .inr ⟨fun s' c' report scenario config succeeds => ?_, replayed_of_fault ran⟩
              cases scenario
              cases config
              rw [ran] at succeeds
              cases succeeds

/-- Within the limits a replay with settings that can be used fails just when one of its events goes
by the wrong call; then, however the moves fall, the client finds the service closed.  The program
prints the records, each with its notifications, and the counts of a replay that succeeds, and of
any other nothing. -/
theorem replay_fails_iff_misrouted (s : Scenario) (c : Config)
    (permits : c.maxConcurrent ≤ maxPermits) (places : c.commandBuffer ≤ maxPermits) :
    (∀ fault, c.check = .error fault → Replay.replay s c = .error (.config fault)) ∧
    (c.check = .ok () →
      ((∃ report, Replay.replay s c = .ok report) ↔ ∀ e ∈ s.events, e.Fits) ∧
      ((∃ e ∈ s.events, ¬ e.Fits) → Replay.replay s c = .error .closed) ∧
      ∃ start, Machine.start s c = .ok start ∧
        ∀ moves m, Machine.run? (Machine.engine s) moves start = some m →
          moves.length ≤ start.movesLeft ∧
          match m.outcome? with
          | some outcome =>
            outcome = if ∀ e ∈ s.events, e.Fits then some (expected s) else none
          | none => ∃ move next, m.step? (Machine.engine s) move = some next) ∧
    ∀ (read : Read Id) (o : ReplayOptions),
      ((runReplay read o).run.ending = .success ↔ ∃ s c report,
        (loadScenario read o.scenario).run = .ok s ∧ (optionalConfig read o.config).run = .ok c ∧
          Replay.replay s c = .ok report) ∧
      ((runReplay read o).run.ending ≠ .success → (runReplay read o).run.lines = []) ∧
      ∀ s c report, (loadScenario read o.scenario).run = .ok s →
        (optionalConfig read o.config).run = .ok c → Replay.replay s c = .ok report →
        (runReplay read o).run.lines =
          (report.records.flatMap fun r =>
            r.outcomeJson.compact :: r.notifications.map fun n => (notificationJson n).compact) ++
          [statsLine report.stats] := by
  refine ⟨fun fault invalid => by rw [Replay.replay, invalid], fun valid => ?_, fun read o => ?_⟩
  · have replays := Replay.replay_eq (s := s) valid permits places
    refine ⟨⟨fun succeeds => ?_, fun fits => ?_⟩, fun misrouted => ?_, ?_⟩
    · obtain ⟨report, succeeds⟩ := succeeds
      obtain ⟨-, -, -, fits, -⟩ := Replay.replay_ok succeeds
      exact fits
    · exact ⟨expected s, replays.trans (if_pos fits)⟩
    · obtain ⟨e, member, misfit⟩ := misrouted
      exact replays.trans (if_neg fun fits => misfit (fits e member))
    · obtain ⟨start, P, started, heads, here⟩ := Replay.start_heads (s := s) permits places
      refine ⟨start, started, fun moves m ran => ?_⟩
      obtain ⟨k, there, le⟩ := heads.run here ran
      refine ⟨Nat.le_of_add_right_le le, ?_⟩
      obtain unfinished | done := heads.ends there
      · rw [unfinished]
        exact heads.can_move there unfinished
      · rw [done]
  · obtain ⟨s, c, report, scenario, config, ran, whole⟩ | ⟨fails, silent, ending⟩ :=
      runReplay_cases read o
    · rw [whole]
      refine ⟨⟨fun _ => ⟨s, c, report, scenario, config, ran⟩, fun _ => rfl⟩, fun fails => ?_,
        fun s' c' report' scenario' config' ran' => ?_⟩
      · exact absurd rfl fails
      · cases scenario.symm.trans scenario'
        cases config.symm.trans config'
        cases ran.symm.trans ran'
        rfl
    · refine ⟨⟨fun succeeds => absurd succeeds ending, ?_⟩, fun _ => silent, ?_⟩
      · rintro ⟨s, c, report, scenario, config, ran⟩
        exact absurd ran (fails s c report scenario config)
      · exact fun s c report scenario config ran => absurd ran (fails s c report scenario config)

/-- A socket that is asked for like any other resource ends the replay, though its frame is not even
declared, and the event before it is not reported. -/
theorem undeclared_socket_fails :
    let page : Url := ⟨"https://a.example/"⟩
    let s : Scenario :=
      { events := [.document page ⟨1, 1⟩, .request ⟨"wss://b.example/"⟩ .other ⟨1, 2⟩] }
    Replay.replay s {} = .error .closed ∧ (replayed s {}).lines = [] := by
  intro page s
  have failed : Replay.replay s {} = .error .closed :=
    ((replay_fails_iff_misrouted s {} (by decide) (by decide)).2.1 rfl).2.1
      ⟨_, List.mem_cons_of_mem _ List.mem_cons_self, by decide +kernel⟩
  exact ⟨failed, (replayed_of_fault failed).1⟩

end FilterDispatch.CommandLine
