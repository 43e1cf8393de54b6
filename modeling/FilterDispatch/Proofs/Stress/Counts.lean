import FilterDispatch.Proofs.Stress.Runs
import FilterDispatch.Proofs.Stress.Synthetic

/-!
What a stress run counts.  The made-up scenario declares the frame of every request and blocks each
fourth address, so whoever moves when, each request is answered once and every fourth one is counted
as blocked.  With nothing to do, or with more frames than there are numbers for, no run begins.
-/

namespace FilterDispatch.Stress

open Scenario (World FrameTable verdict)

/-- Each fourth request is blocked, and none of the others. -/
def ruling (n : CallId) : MatchResult :=
  if n % 4 = 0 then .blockRule else .noRule

theorem count_ruling (requests : Nat) :
    ((List.range requests).map ruling).count .blockRule = (requests + 3) / 4 := by
  induction requests with
  | zero => rfl
  | succ n ih =>
      rw [List.range_succ, List.map_append, List.count_append, ih, List.map_singleton,
        List.count_singleton]
      by_cases fourth : n % 4 = 0
      · simp only [ruling, fourth, if_true, beq_self_eq_true]
        omega
      · simp only [ruling, fourth, if_false, beq_iff_eq, reduceCtorEq]
        omega

section Requests

variable {frames : Nat}

theorem frameOf_routing (some : 0 < frames) (fits : frames ≤ 2 ^ 31) (n : Nat) :
    (frameOf frames n).routing.toInt = (n % frames : Nat) :=
  Int32.toInt_ofNat_of_lt (Nat.lt_of_lt_of_le (Nat.mod_lt n some) fits)

theorem frameOf_declared (some : 0 < frames) (n : Nat) :
    ∃ f ∈ (synthetic frames).frames, f.live.id = frameOf frames n :=
  ⟨frame (n % frames), List.mem_map.mpr ⟨_, List.mem_range.mpr (Nat.mod_lt n some), rfl⟩, rfl⟩

theorem frameOf_stays (some : 0 < frames) (n : Nat) :
    (synthetic frames).frameTable.Stays (frameOf frames n) := by
  obtain ⟨f, member, own⟩ := frameOf_declared some n
  have there : ((synthetic frames).frames.find? fun f => f.live.id = frameOf frames n).isSome :=
    List.find?_isSome.mpr ⟨f, member, decide_eq_true own⟩
  obtain ⟨g, found⟩ := Option.isSome_iff_exists.mp there
  obtain ⟨r, -, rfl⟩ := List.mem_map.mp (List.mem_of_find?_eq_some found)
  refine ⟨{ frame := frame r }, ?_, rfl⟩
  rw [Scenario.frameTable, FrameTable.find?_ofDeclared, found]
  rfl

theorem urlText_scheme (n : Nat) : Url.scheme ⟨urlText n⟩ = "https" := by
  rw [urlText_eq, Url.scheme, String.toList_ofList]
  rfl

def sent (frames n : Nat) : Sent :=
  ⟨n, .request (synthetic frames).snapshot ⟨urlText n⟩ .image (frameOf frames n)⟩

theorem commands_eq (requests frames : Nat) :
    commands (synthetic frames).snapshot requests frames =
      .ok ((List.range requests).map (sent frames)) := by
  have each : command (synthetic frames).snapshot frames = fun n => .ok (sent frames n) := by
    funext n
    rw [command, urlText_parse]
    rfl
  rw [commands, each]
  exact List.mapM_pure

theorem sent_poses (some : 0 < frames) (n : Nat) :
    Service.Poses (synthetic frames) ruling (sent frames n) := by
  refine .request (by decide) ?_ (frameOf_stays some n) ?_
  · rw [Url.isWebSocket, urlText_scheme]
    decide
  · rw [verdict_synthetic, ruling]
    split <;> rfl

end Requests

section Preparation

variable {requests frames : Nat} {c : Config}

theorem prepare_nothing (nothing : requests = 0 ∨ frames = 0) (c : Config) :
    prepare requests frames c = .error .nothingToDo := by
  rw [prepare, if_pos nothing]
  rfl

theorem prepare_large (some : requests ≠ 0) (large : 2 ^ 31 < frames) (valid : c.check = .ok ()) :
    prepare requests frames c = .error (.scenario (.frameId ⟨"1:2147483648"⟩)) := by
  have many : ¬ (requests = 0 ∨ frames = 0) := by omega
  rw [prepare, if_neg many, valid, scenario_large large]
  rfl

theorem prepare_rules (some : requests ≠ 0) (framed : frames ≠ 0) (fits : frames ≤ 2 ^ 31)
    (valid : c.check = .ok ()) (permits : c.maxConcurrent ≤ maxPermits)
    (places : c.commandBuffer ≤ maxPermits) :
    ∃ service, prepare requests frames c =
        .ok ⟨synthetic frames, service, (List.range requests).map (sent frames)⟩ ∧
      service.Rules (synthetic frames) ruling ∧ service.calls = [] ∧ service.movesLeft = 1 := by
  have many : ¬ (requests = 0 ∨ frames = 0) := by omega
  obtain ⟨service, spawned, rules, calls, idle⟩ :=
    Service.spawn_rules (synthetic frames) ruling permits places
  refine ⟨service, ?_, rules, calls, idle⟩
  rw [prepare, if_neg many, valid, scenario_eq fits]
  change (do
    let service ← (Service.spawn c.maxConcurrent c.commandBuffer
      (World.ofScenario (synthetic frames))).mapError Fault.panicked
    let commands ← (commands (synthetic frames).snapshot requests frames).mapError Fault.url
    return ({ scenario := synthetic frames, service, commands } : Setting)) = _
  rw [spawned, commands_eq]
  rfl

end Preparation

section Summaries

variable {latency : CallId → Float} {requests frames : Nat} {c : Config}

/-- Every request is reported with its latency, and each fourth one as blocked. -/
structure Summary.Tallies (latency : CallId → Float) (requests : Nat) (summary : Summary) :
    Prop where
  count : summary.requests = requests
  length : summary.latencies.length = requests
  latencies : summary.latencies.Perm ((List.range requests).map latency)
  blocked : summary.blocked = (requests + 3) / 4

theorem tallies_of_perm {blocked : Nat} {calls : List CallId}
    (each : calls.Perm (List.range requests))
    (ruled : blocked = (calls.map ruling).count .blockRule) :
    Summary.Tallies latency requests ⟨requests, blocked, ascending (calls.map latency)⟩ := by
  have sorted : (ascending (calls.map latency)).Perm (calls.map latency) := List.mergeSort_perm _ _
  have all := sorted.trans (each.map latency)
  refine ⟨rfl, ?_, all, ?_⟩
  · rw [all.length_eq, List.length_map, List.length_range]
  · rw [← count_ruling, ruled]
    exact (each.map ruling).count_eq _

/-- The service comes to rest after each request, and rules on all of them. -/
theorem submit_rules {s : Scenario} {rules : CallId → MatchResult} {xs : List Sent}
    {t : Service World} (ruled : t.Rules s rules) (idle : t.movesLeft = 1)
    (poses : ∀ x ∈ xs, Service.Poses s rules x) (distinct : (xs.map (·.call) ++ t.calls).Nodup) :
    let u := xs.foldl (submit (Scenario.engine s.ownTables)) t
    u.Rules s rules ∧ u.movesLeft = 1 ∧ u.calls.Perm (xs.map (·.call) ++ t.calls) := by
  induction xs generalizing t with
  | nil => exact ⟨ruled, idle, .refl _⟩
  | cons x rest ih =>
      obtain ⟨own, others⟩ := List.forall_mem_cons.mp poses
      have moved : (rest.map (·.call) ++ x.call :: t.calls).Perm
          ((x :: rest).map (·.call) ++ t.calls) := List.perm_middle
      have fresh : x.call ∉ t.calls := fun old =>
        (List.nodup_cons.mp distinct).1 (List.mem_append_right _ old)
      obtain ⟨taken, -⟩ := ruled.send own fresh
      obtain ⟨rested, calls, quiet⟩ := taken.rest
      have made : (submit (Scenario.engine s.ownTables) t x).calls = x.call :: t.calls :=
        calls.trans (Service.send_calls x.call x.command t)
      rw [← made] at moved
      obtain ⟨after, quiet, all⟩ := ih rested quiet others (moved.nodup_iff.mpr distinct)
      exact ⟨after, quiet, all.trans moved⟩

theorem mapM_eq_some {α β : Type} {f : α → Option β} {g : α → β} {xs : List α}
    (each : ∀ x ∈ xs, f x = some (g x)) : xs.mapM f = some (xs.map g) := by
  induction xs with
  | nil => rfl
  | cons x rest ih =>
      obtain ⟨own, others⟩ := List.forall_mem_cons.mp each
      rw [List.mapM_cons, own, ih others]
      rfl

theorem answers_eq {s : Scenario} {rules : CallId → MatchResult} {t : Service World}
    (ruled : t.Rules s rules) (idle : t.movesLeft = 1) (made : ∀ n < requests, n ∈ t.calls) :
    answers t requests = .ok ((List.range requests).map rules) := by
  have each : ∀ n ∈ List.range requests, result? t n = some (rules n) := by
    intro n within
    have waits := ruled.quiet_iff.mp idle n (made n (List.mem_range.mp within))
    rw [result?, (ruled.callStatus n).resolve_left waits]
  rw [answers, mapM_eq_some each]

theorem measure_tallies (some : requests ≠ 0) (framed : frames ≠ 0) (fits : frames ≤ 2 ^ 31)
    (valid : c.check = .ok ()) (permits : c.maxConcurrent ≤ maxPermits)
    (places : c.commandBuffer ≤ maxPermits) :
    ∃ summary, measure latency requests frames c = .ok summary ∧
      summary.Tallies latency requests := by
  obtain ⟨service, prepared, rules, calls, idle⟩ :=
    prepare_rules some framed fits valid permits places
  have own : ((List.range requests).map (sent frames)).map (·.call) = List.range requests := by
    rw [List.map_map]
    exact List.map_id _
  have poses : ∀ x ∈ (List.range requests).map (sent frames),
      Service.Poses (synthetic frames) ruling x :=
    List.forall_mem_map.mpr fun n _ => sent_poses (Nat.pos_of_ne_zero framed) n
  have distinct : (((List.range requests).map (sent frames)).map (·.call) ++
      service.calls).Nodup := by
    rw [own, calls, List.append_nil]
    exact List.nodup_range
  obtain ⟨after, quiet, made⟩ := submit_rules rules idle poses distinct
  rw [own, calls, List.append_nil] at made
  have answered := answers_eq after quiet fun n within =>
    made.mem_iff.mpr (List.mem_range.mpr within)
  refine ⟨_, ?_, tallies_of_perm (.refl _) rfl⟩
  rw [measure, prepared]
  change (do
    let results ← answers (((List.range requests).map (sent frames)).foldl
      (submit (Scenario.engine (synthetic frames).ownTables)) service) requests
    let latencies := ascending ((List.range requests).map latency)
    return ({ requests, blocked := results.count MatchResult.blockRule, latencies } : Summary)) = _
  rw [answered]
  rfl

theorem start_underway (some : requests ≠ 0) (framed : frames ≠ 0) (fits : frames ≤ 2 ^ 31)
    (valid : c.check = .ok ()) (permits : c.maxConcurrent ≤ maxPermits)
    (places : c.commandBuffer ≤ maxPermits) :
    ∃ m, Machine.start requests frames c = .ok m ∧
      Machine.Underway (synthetic frames) ruling requests (7 * requests + 5) m := by
  obtain ⟨service, prepared, rules, calls, idle⟩ :=
    prepare_rules some framed fits valid permits places
  let m : Machine :=
    { engine := Scenario.engine (synthetic frames).ownTables, service, requests
      unsent := (List.range requests).map (sent frames) }
  have own : m.unsent.map (·.call) = List.range requests := by
    rw [List.map_map]
    exact List.map_id _
  have measures : Machine.Measures (synthetic frames) ruling requests m := by
    refine ⟨rfl, rfl, rfl, rules, ?_, ?_, ?_, List.forall_mem_nil _⟩
    · exact List.forall_mem_map.mpr fun n _ => sent_poses (Nat.pos_of_ne_zero framed) n
    · rw [own, calls, List.append_nil]
    · rw [calls]
      exact .nil
  refine ⟨m, ?_, ?_⟩
  · rw [Machine.start, prepared]
    rfl
  · have underway := Machine.Underway.measuring measures
    have length : m.unsent.length = requests := by
      rw [List.length_map, List.length_range]
    rw [length, idle, List.length_nil] at underway
    exact underway

theorem tallies_of_collected {m : Machine} (count : m.requests = requests)
    (collected : Machine.Collected ruling requests m.collected) :
    (m.summary latency).Tallies latency requests := by
  have same : m.collected.map (·.2) = (m.collected.map (·.1)).map ruling := by
    rw [List.map_map]
    exact List.map_congr_left collected.ruled
  have listed : m.collected.map (fun x => latency x.1) = (m.collected.map (·.1)).map latency := by
    rw [List.map_map]
    rfl
  rw [Machine.summary, listed, count]
  exact tallies_of_perm collected.each (congrArg (List.count MatchResult.blockRule) same)

end Summaries

/-- The made-up scenario suits the requests: it can be read, it declares the frame of each of them
under a number that is taken as it is, and it blocks each fourth address and takes no notice of any
other. -/
structure Suits (frames : Nat) : Prop where
  loads : scenario frames = .ok (synthetic frames)
  declares : ∀ n, ∃ f ∈ (synthetic frames).frames, f.live.id = frameOf frames n
  numbers : ∀ n, (frameOf frames n).routing.toInt = (n % frames : Nat)
  parses : ∀ n, url n = .ok ⟨urlText n⟩
  classifies : ∀ n, Scenario.classify (synthetic frames).ownTables (synthetic frames).snapshot
    ⟨urlText n⟩ = if 4 ∣ n then .blocked table.subscription else .ignored

/-- Every order of the moves leads to the same counts, and so does the order in which each request
is answered before the next one is sent: no run goes on for ever, none gets stuck, and none ends
otherwise. -/
structure Counts (latency : CallId → Float) (requests frames : Nat) (c : Config) : Prop where
  measured : ∃ summary, measure latency requests frames c = .ok summary ∧
    summary.Tallies latency requests
  runs : ∃ start, Machine.start requests frames c = .ok start ∧
    ∀ moves m, Machine.run? moves start = some m → moves.length ≤ 7 * requests + 5 ∧
      match m.outcome? latency with
      | some outcome => ∃ summary, outcome = .ok summary ∧ summary.Tallies latency requests
      | none => ∃ move next, m.step? move = some next

/-- No run begins, and nothing is sent. -/
structure Refuses (latency : CallId → Float) (requests frames : Nat) (c : Config) (fault : Fault) :
    Prop where
  measured : measure latency requests frames c = .error fault
  starts : Machine.start requests frames c = .error fault

theorem refuses_of_prepare {requests frames : Nat} {c : Config} {fault : Fault}
    (latency : CallId → Float) (failed : prepare requests frames c = .error fault) :
    Refuses latency requests frames c fault := by
  constructor
  · rw [measure, failed]
    rfl
  · rw [Machine.start, failed]
    rfl

/-- What a stress run comes to, for any numbers of requests and of frames. -/
structure Outcome (latency : CallId → Float) (requests frames : Nat) (c : Config) : Prop where
  nothing : requests = 0 ∨ frames = 0 → Refuses latency requests frames c .nothingToDo
  large : 1 ≤ requests → 2 ^ 31 < frames → c.check = .ok () →
    Refuses latency requests frames c (.scenario (.frameId ⟨"1:2147483648"⟩))
  suits : 1 ≤ frames → frames ≤ 2 ^ 31 → Suits frames
  counts : 1 ≤ requests → 1 ≤ frames → frames ≤ 2 ^ 31 → c.check = .ok () →
    c.maxConcurrent ≤ maxPermits → c.commandBuffer ≤ maxPermits →
    Counts latency requests frames c

theorem every_fourth_blocked (latency : CallId → Float) (requests frames : Nat) (c : Config) :
    Outcome latency requests frames c := by
  refine ⟨?nothing, ?large, ?suits, ?counts⟩
  case nothing =>
    intro nothing
    exact refuses_of_prepare latency (prepare_nothing nothing c)
  case large =>
    intro some large valid
    exact refuses_of_prepare latency (prepare_large (Nat.ne_of_gt some) large valid)
  case suits =>
    intro some fits
    refine ⟨scenario_eq fits, frameOf_declared some, frameOf_routing some fits, urlText_parse, ?_⟩
    intro n
    rw [Scenario.classify_own, verdict_synthetic]
    simp only [Nat.dvd_iff_mod_eq_zero]
  case counts =>
    intro some framed fits valid permits places
    have asked := Nat.ne_of_gt some
    have there := Nat.ne_of_gt framed
    obtain ⟨start, started, underway⟩ := start_underway asked there fits valid permits places
    refine ⟨measure_tallies asked there fits valid permits places, start, started, ?_⟩
    intro moves m ran
    obtain ⟨k, still, le⟩ := underway.run ran
    refine ⟨Nat.le_of_add_right_le le, ?_⟩
    cases ended : m.outcome? latency with
    | none => exact still.goes_on ended
    | some outcome =>
        obtain ⟨same, count, collected⟩ := still.outcome ended
        exact ⟨_, same, tallies_of_collected count collected⟩

/-- Of five requests to two frames the first and the last are blocked; without requests there is no
run, and neither is there with a frame too many. -/
theorem five_requests_counted :
    let c : Config := { maxConcurrent := 1, commandBuffer := 1 }
    let latency : CallId → Float := fun _ => 0.0
    (∃ summary, measure latency 5 2 c = .ok summary ∧ summary.blocked = 2 ∧
      summary.latencies.length = 5) ∧
    (∃ start, Machine.start 5 2 c = .ok start) ∧ (frameOf 2 3).routing.toInt = 1 ∧
    Refuses latency 0 2 c .nothingToDo ∧
    Refuses latency 5 (2 ^ 31 + 1) c (.scenario (.frameId ⟨"1:2147483648"⟩)) := by
  intro c latency
  have five := every_fourth_blocked latency 5 2 c
  have counts := five.counts (by decide) (by decide) (by decide) rfl (by decide) (by decide)
  obtain ⟨summary, measured, tallies⟩ := counts.measured
  obtain ⟨start, started, -⟩ := counts.runs
  refine ⟨⟨summary, measured, tallies.blocked, tallies.length⟩, ⟨start, started⟩, ?_, ?_, ?_⟩
  · exact (five.suits (by decide) (by decide)).numbers 3
  · exact (every_fourth_blocked latency 0 2 c).nothing (.inl rfl)
  · exact (every_fourth_blocked latency 5 (2 ^ 31 + 1) c).large (by decide) (by decide) rfl

end FilterDispatch.Stress
