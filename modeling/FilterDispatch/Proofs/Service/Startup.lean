import FilterDispatch.Proofs.Config
import FilterDispatch.Proofs.Queue
import FilterDispatch.Service.Basic

/-!
Whether accepted settings can be used.  The check of settings knows a least count for either of them,
and no largest; the runtime hands out only so many permits, and panics when it is asked for more.
-/

namespace FilterDispatch

variable {σ : Type}

theorem WorkQueue.new_eq {ι ο : Type} {n : Nat} (some : 1 ≤ n) :
    (WorkQueue.new n : Except Panic (WorkQueue ι ο)) =
      if n ≤ maxPermits then .ok { free := n } else .error tooManyPermits := by
  rw [WorkQueue.new, Nat.max_eq_right some]
  by_cases fits : n ≤ maxPermits
  · rw [if_pos fits, if_neg (Nat.not_lt.mpr fits)]
  · rw [if_neg fits, if_pos (Nat.not_le.mp fits)]

theorem Dispatcher.new_eq {n : Nat} (some : 1 ≤ n) (host : σ) :
    Dispatcher.new n host =
      if n ≤ maxPermits then .ok { queue := { free := n }, stage := { host } }
      else .error tooManyPermits := by
  rw [Dispatcher.new, WorkQueue.new_eq some]
  by_cases fits : n ≤ maxPermits
  · simp only [if_pos fits]
  · simp only [if_neg fits]

/-- The dispatcher is made before its service asks for the places of the channel. -/
theorem Service.spawn_eq {n places : Nat} (some : 1 ≤ n) (room : 1 ≤ places) (host : σ) :
    Service.spawn n places host =
      if n ≤ maxPermits ∧ places ≤ maxPermits then
        .ok { dispatcher := { queue := { free := n }, stage := { host := { host } } }, capacity := places }
      else .error tooManyPermits := by
  rw [Service.spawn, Dispatcher.new_eq some, Nat.max_eq_right room]
  by_cases few : n ≤ maxPermits
  · by_cases fits : places ≤ maxPermits
    · simp only [few, fits, and_self, if_true, if_neg (Nat.not_lt.mpr fits)]
    · simp only [few, fits, and_false, if_true, if_false, if_pos (Nat.not_le.mp fits)]
  · simp only [few, false_and, if_false]

/-- Accepted are all settings between one and the largest word.  A dispatcher can be made of them
exactly if there are permits enough, and its service be started if there are for the channel, too. -/
theorem Config.startup (c : Config) :
    ((∃ text, Config.parse text = .ok c) ↔ c.InRange) ∧
      ∀ text, Config.parse text = .ok c → ∀ {σ : Type} (host : σ),
        Dispatcher.new c.maxConcurrent host =
          (if c.maxConcurrent ≤ maxPermits then
            .ok { queue := { free := c.maxConcurrent }, stage := { host } }
          else .error tooManyPermits) ∧
        Service.spawn c.maxConcurrent c.commandBuffer host =
          (if c.maxConcurrent ≤ maxPermits ∧ c.commandBuffer ≤ maxPermits then
            .ok {
              dispatcher := { queue := { free := c.maxConcurrent }, stage := { host := { host } } }
              capacity := c.commandBuffer }
          else .error tooManyPermits) := by
  refine ⟨Config.accepted_iff, ?_⟩
  intro text accepted σ host
  have range := Config.inRange_of_parse accepted
  constructor
  · exact Dispatcher.new_eq range.concurrent.1 host
  · exact Service.spawn_eq range.concurrent.1 range.buffer.1 host

/-- As many permits as there are: the service starts. -/
theorem Config.startup_at_limit :
    Config.parse "[2305843009213693951, 2305843009213693951]" = .ok ⟨maxPermits, maxPermits⟩ ∧
      Dispatcher.new maxPermits () = .ok { queue := { free := maxPermits }, stage := { host := () } } ∧
      Service.spawn maxPermits maxPermits () =
        .ok {
          dispatcher := { queue := { free := maxPermits }, stage := { host := { host := () } } }
          capacity := maxPermits } := by
  have accepted :
      Config.parse "[2305843009213693951, 2305843009213693951]" = .ok ⟨maxPermits, maxPermits⟩ := rfl
  obtain ⟨made, spawned⟩ := (Config.startup ⟨maxPermits, maxPermits⟩).2 _ accepted ()
  refine ⟨accepted, ?_, ?_⟩
  · rw [made, if_pos (Nat.le_refl _)]
  · rw [spawned, if_pos ⟨Nat.le_refl _, Nat.le_refl _⟩]

/-- One permit more is accepted, and there is no such dispatcher; nor is there a service that has room
for one command more. -/
theorem Config.startup_beyond_limit :
    (Config.parse "\x7b\"max_concurrent_evaluations\": 2305843009213693952\x7d" =
        .ok ⟨2305843009213693952, 256⟩ ∧
      Dispatcher.new 2305843009213693952 () = .error tooManyPermits ∧
      Service.spawn 2305843009213693952 256 () = .error tooManyPermits) ∧
    Config.parse "\x7b\"command_buffer\": 2305843009213693952\x7d" =
        .ok ⟨8, 2305843009213693952⟩ ∧
      Service.spawn 8 2305843009213693952 () = .error tooManyPermits :=
  ⟨⟨rfl, rfl, rfl⟩, rfl, rfl⟩

end FilterDispatch
