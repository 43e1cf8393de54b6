import FilterDispatch.Proofs.Replay.Simulation

/-!
Replays are sequential.  Although its events go through a service with a queue and workers, a replay
reports of each what evaluating the events one after the other says, however the moves of the
service and its workers fall and whatever the settings are.
-/

namespace FilterDispatch

open Scenario (Event FrameTable Table World counter keeper)

namespace Scene

def told (ns : List Notification) (x : Scene) : Scene :=
  { x with
    world := { x.world with
      notifications := x.world.notifications ++ ns
      stats := ns.foldl SessionStats.observe x.world.stats } }

theorem foldl_hear_both {x : Scene} (both : x.observers = [keeper, counter])
    (ns : List Notification) : ns.foldl hear x = x.told ns := by
  induction ns generalizing x with
  | nil => simp [told]
  | cons n rest ih =>
      have heard : x.hear n = x.told [n] := by
        obtain ⟨os, world⟩ := x
        cases both
        rfl
      have later : (x.told [n]).observers = [keeper, counter] := both
      rw [List.foldl_cons, heard, ih later]
      simp [told]

end Scene

namespace Replay

def tasksFrom : Nat → List Event → List Task
  | _, [] => []
  | i, e :: rest => .dispatch e :: .flush i e :: tasksFrom (i + 1) rest

theorem eventTasks_eq (events : List Event) : eventTasks events = tasksFrom 0 events := by
  have shifted (i : Nat) : (events.mapIdx fun j e => [Task.dispatch e, .flush (i + j) e]).flatten =
      tasksFrom i events := by
    induction events generalizing i with
    | nil => rfl
    | cons e rest ih =>
        rw [List.mapIdx_cons, List.flatten_cons, tasksFrom, ← ih (i + 1)]
        simp [Nat.add_comm, Nat.add_left_comm]
  simpa [eventTasks] using shifted 0

theorem agenda_from {events : List Event} (fits : ∀ e ∈ events, e.Fits) (i : Nat) :
    Agenda (tasksFrom i events ++ [.shutdown, .join]) ∧
      mode (tasksFrom i events ++ [.shutdown, .join]) = .calm := by
  induction events generalizing i with
  | nil => exact ⟨.shutdown, rfl⟩
  | cons e rest ih =>
      obtain ⟨here, later⟩ := List.forall_mem_cons.mp fits
      obtain ⟨agenda, calm⟩ := ih later (i + 1)
      exact ⟨.dispatch here (.flush agenda calm), rfl⟩

theorem agenda_tasks {events : List Event} (fits : ∀ e ∈ events, e.Fits) :
    Agenda (tasks events) := by
  obtain ⟨agenda, calm⟩ := agenda_from fits 0
  rw [tasks, eventTasks_eq]
  exact .observe (.inl rfl) (.observe (.inr rfl) agenda calm) rfl

theorem carryOut_event {tables : List Table} {e : Event} {b : Book} {outcome : Scenario.Outcome}
    {u : FrameTable} (i : Nat) (both : b.scene.observers = [keeper, counter])
    (collected : b.scene.world.notifications = [])
    (evaluated : e.evaluate tables b.scene.world.frames = (outcome, u)) :
    (b.carryOut tables (.dispatch e)).carryOut tables (.flush i e) =
      { scene := ((b.scene.withFrames u).told outcome.notifications).cleared
        reply := outcome.reply
        records := ⟨i, e, outcome.reply, outcome.notifications⟩ :: b.records } := by
  have still : (b.scene.withFrames u).observers = [keeper, counter] := both
  have played : b.scene.play tables e =
      (outcome.reply, (b.scene.withFrames u).told outcome.notifications) := by
    rw [Scene.play, evaluated]
    exact congrArg (Prod.mk _) (Scene.foldl_hear_both still _)
  simp only [Book.carryOut, Task.perform, Book.enter, played]
  simp [Scene.told, Scene.withFrames, collected]

theorem complete_from (tables : List Table) (events : List Event) (i : Nat) (b : Book)
    (both : b.scene.observers = [keeper, counter]) (collected : b.scene.world.notifications = []) :
    let records := evaluateFrom tables i events b.scene.world.frames
    Book.Closes
      ⟨b.records.reverse ++ records,
        (records.flatMap (·.notifications)).foldl SessionStats.observe b.scene.world.stats⟩
      (b.complete tables (tasksFrom i events ++ [.shutdown, .join])) := by
  -- Each event enters a record and may drop a frame, so the induction is for every book.
  induction events generalizing i b with
  | nil =>
      simp only [evaluateFrom, List.append_nil]
      exact ⟨rfl, collected⟩
  | cons e rest ih =>
      have onward : b.complete tables (tasksFrom i (e :: rest) ++ [.shutdown, .join]) =
          ((b.carryOut tables (.dispatch e)).carryOut tables (.flush i e)).complete tables
            (tasksFrom (i + 1) rest ++ [.shutdown, .join]) := rfl
      cases evaluated : e.evaluate tables b.scene.world.frames with
      | mk outcome u =>
          rw [onward, carryOut_event i both collected evaluated]
          have later := ih (i + 1)
            ⟨((b.scene.withFrames u).told outcome.notifications).cleared, outcome.reply,
              ⟨i, e, outcome.reply, outcome.notifications⟩ :: b.records⟩ both rfl
          simpa [evaluateFrom, evaluated, Scene.told, Scene.cleared, Scene.withFrames] using later

theorem complete_tasks (s : Scenario) :
    Book.Closes (expected s)
      (Book.complete s.tables ⟨⟨[], .ofScenario s⟩, .done, []⟩ (tasks s.events)) := by
  rw [tasks, eventTasks_eq]
  exact complete_from s.tables s.events 0 ⟨⟨[keeper, counter], .ofScenario s⟩, .done, []⟩ rfl rfl

theorem start_sim {s : Scenario} {c : Config} (permits : c.maxConcurrent ≤ maxPermits)
    (places : c.commandBuffer ≤ maxPermits) (fits : ∀ e ∈ s.events, e.Fits) :
    ∃ m, Machine.start s c = .ok m ∧ Sim s (expected s) m.movesLeft m := by
  obtain ⟨free, one⟩ : ∃ free, max 1 c.maxConcurrent = free + 1 :=
    Nat.exists_eq_add_of_le' (Nat.le_max_left 1 _)
  have few : ¬ maxPermits < free + 1 := by
    simp only [maxPermits] at *
    omega
  have small : ¬ maxPermits < max 1 c.commandBuffer := by
    simp only [maxPermits] at *
    omega
  let service : Service World :=
    { dispatcher :=
        { queue := { free := free + 1 }, stage := { host := { host := .ofScenario s } } }
      capacity := max 1 c.commandBuffer }
  have spawned :
      Service.spawn c.maxConcurrent c.commandBuffer (World.ofScenario s) = .ok service := by
    simp only [Service.spawn, Dispatcher.new, WorkQueue.new, one, few, small, if_false, service]
  refine ⟨{ service, snapshot := s.snapshot, todo := tasks s.events }, ?_, ?_⟩
  · rw [Machine.start, spawned]
  · let a : Standing := { scene := ⟨[], .ofScenario s⟩ }
    have stands : Service.Stands s a service :=
      ⟨rfl, rfl, Nat.lt_of_lt_of_le Nat.zero_lt_one (Nat.le_max_left 1 _), .idle, rfl, rfl, rfl,
        rfl, ⟨rfl, List.forall_mem_nil _⟩, rfl⟩
    have stays : mode (tasks s.events) ≠ .leaving := by
      change Mode.calm ≠ .leaving
      decide
    refine .between ⟨rfl, rfl, stands, List.forall_mem_nil _⟩ rfl rfl (agenda_tasks fits)
      (.of_idle stays rfl rfl rfl rfl) (complete_tasks s) ?_
    simp only [Machine.movesLeft, Standing.weight, a, List.length_nil]
    omega

theorem evaluateFrom_events (tables : List Table) (i : Nat) (events : List Event) (t : FrameTable) :
    (evaluateFrom tables i events t).map (fun r => (r.index, r.event)) =
      events.mapIdx fun j e => (i + j, e) := by
  induction events generalizing i t with
  | nil => rfl
  | cons e rest ih =>
      rw [evaluateFrom, List.map_cons, ih, List.mapIdx_cons]
      simp [Nat.add_comm, Nat.add_left_comm]

/-- Every order of the moves leads to the report of the sequential evaluation, and so does the fixed
one: no run makes more moves than were left at its start, none gets stuck, and none ends otherwise.
The settings make no difference to the report. -/
theorem replay_sequential (s : Scenario) (c : Config) (valid : c.check = .ok ())
    (permits : c.maxConcurrent ≤ maxPermits) (places : c.commandBuffer ≤ maxPermits)
    (fits : ∀ e ∈ s.events, e.Fits) :
    (∃ start, Machine.start s c = .ok start ∧
      ∀ moves m, Machine.run? (Machine.engine s) moves start = some m →
        moves.length ≤ start.movesLeft ∧
        match m.outcome? with
        | some outcome => outcome = some (expected s)
        | none => ∃ move next, m.step? (Machine.engine s) move = some next) ∧
    replay s c = .ok (expected s) ∧
    (expected s).records.map (fun r => (r.index, r.event)) = s.events.mapIdx fun i e => (i, e) := by
  obtain ⟨start, started, sim⟩ := start_sim permits places fits
  refine ⟨⟨start, started, fun moves m ran => ?_⟩, ?_, ?_⟩
  · obtain ⟨k, there, le⟩ := sim.run ran
    refine ⟨Nat.le_of_add_right_le le, ?_⟩
    obtain unfinished | done := there.outcome
    · obtain ⟨next, moved⟩ := Option.ne_none_iff_exists'.mp (there.goes_on unfinished)
      obtain ⟨move, step⟩ := there.progress_step moved
      rw [unfinished]
      exact ⟨move, next, step⟩
    · rw [done]
  · simp only [replay, valid, started, sim.runFor]
  · simpa [expected] using evaluateFrom_events s.tables 0 s.events s.frameTable

/-- A frame that dies is reported of no more, and what another causes is reported behind it. -/
theorem dying_frame_replayed :
    let page : Url := ⟨"https://a.example/"⟩
    let ad : Url := ⟨"https://b.example/ads.js"⟩
    let list : Url := ⟨"https://list.example/"⟩
    let stays : LiveFrame := ⟨⟨1, 1⟩, page⟩
    let dies : LiveFrame := ⟨⟨1, 2⟩, page⟩
    let s : Scenario :=
      { frames :=
          [{ live := stays, ancestors := [page] }, { live := dies, diesAfterDispatch := true }]
        tables := [{ subscription := list, block := ["ads"], documentHosts := ["a.example"] }]
        events := [.document page stays.id, .request ad .script dies.id,
          .response ad .script stays.id {}] }
    let matched : AdMatched :=
      { url := ad, result := .blockRule, ancestors := [page], contentType := .script,
        frame := stays, subscription := list }
    replay s { maxConcurrent := 2, commandBuffer := 1 } = .ok
      { records :=
          [⟨0, .document page stays.id, .done, [.pageAllowed ⟨page, stays, list⟩]⟩,
            ⟨1, .request ad .script dies.id, .answer (.result .blockRule), []⟩,
            ⟨2, .response ad .script stays.id {}, .answer (.result .blockRule),
              [.adMatched matched]⟩]
        stats := { collecting := true, blocked := [(list, 1)] } } := by
  intro page ad list stays dies s matched
  have replayed := (replay_sequential s { maxConcurrent := 2, commandBuffer := 1 } rfl (by decide)
    (by decide) (by decide +kernel)).2.1
  rw [replayed]
  exact congrArg Except.ok (by decide +kernel)

end Replay

end FilterDispatch
