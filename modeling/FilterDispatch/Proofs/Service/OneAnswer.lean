import FilterDispatch.Proofs.Service.Abandonment

/-!
One answer to a call.  A call is waited for in one place until it is replied to, or until the loop
ends; what it is told then stays, and comes from the dispatcher.
-/

namespace FilterDispatch.Service

variable {σ : Type}

theorem Ledger.replies_distinct {hand : List Sent} {s : Service σ} (ledger : s.Ledger hand) :
    (s.desk.replies.map (·.1)).Nodup :=
  ledger.distinct.of_append_right

/-- As long as the loop runs, what has not been replied to is held, if its caller waits. -/
theorem Ledger.outstanding_iff {s : Service σ} (ledger : s.Ledger []) (running : s.isRunning = true)
    {call : CallId} (made : call ∈ s.calls) (waits : call ∉ s.abandoned) :
    s.callStatus call = .outstanding ↔ call ∈ s.held [] := by
  have there := (ledger.complete running call made).resolve_right waits
  have once := ledger.once call
  rw [entries] at there once
  rw [callStatus_eq_outstanding, Desk.reply?_eq_none, and_iff_left running,
    ← List.count_eq_zero, ← List.count_pos_iff]
  change s.replied.count call = 0 ↔ _
  omega

theorem Onward.status {s t : Service σ} (onward : Onward s t) (ledger : t.Ledger []) {call : CallId}
    (resolved : s.callStatus call ≠ .outstanding) : t.callStatus call = s.callStatus call := by
  cases replied : s.desk.reply? call with
  | some r =>
      have distinct : (s.desk.replies.map (·.1)).Nodup :=
        (onward.replies.sublist.map _).nodup ledger.replies_distinct
      have there := onward.replies.subset ((Desk.reply?_eq_some distinct).mp replied)
      rw [callStatus_eq_answered.mpr replied, callStatus_eq_answered,
        Desk.reply?_eq_some ledger.replies_distinct]
      exact there
  | none =>
      have ended : s.isRunning = false := by
        by_contra running
        exact resolved (callStatus_eq_outstanding.mpr ⟨replied, by simpa using running⟩)
      obtain ⟨ended', same⟩ := onward.ended ended
      rw [callStatus_eq_closed.mpr ⟨replied, ended⟩, callStatus_eq_closed]
      refine ⟨?_, ended'⟩
      rw [Desk.reply?, same]
      exact replied

variable [Host σ]

/-- What holds of the calls whenever the service is between two moves.  Each call is held in one place or
was replied to once, as its own command earned it; as long as the loop runs nothing is closed and what
is outstanding is held, and once it has ended all the rest is closed. -/
structure OneAnswer (engine : Engine) (s₀ : Service σ) (ms : List (Move σ)) (s : Service σ) :
    Prop where
  once : (s.held [] ++ s.replied).Nodup
  lasting : ∀ more t, run? engine more s = some t → ∀ call, s.callStatus call ≠ .outstanding →
    t.callStatus call = s.callStatus call
  value : ∀ call command r, .send call command ∈ ms → s.callStatus call = .answered r →
    Earned engine s₀ ms s.dispatcher.stage.effects call command r
  told : ∀ call a, .callback call a ∈ s.dispatcher.stage.effects →
    s.callStatus call = .answered (.answer a)
  running : s.isRunning = true → ∀ call ∈ s.calls, s.callStatus call ≠ .closed ∧
    (call ∉ s.abandoned → (s.callStatus call = .outstanding ↔ call ∈ s.held []))
  ended : s.isRunning = false → ∀ more t, run? engine more s = some t → ∀ call,
    (call ∈ s.calls → ∀ r, s.callStatus call ≠ .answered r) → t.callStatus call = .closed
  abandonment : ∀ call ∈ s.abandoned, ∃ ms' s', Spared engine s₀ call ms ms' ∧
    run? engine ms' s₀ = some s' ∧ Undisturbed call s s'

/-- Every call is resolved at most once, with what the dispatcher had for it; it is closed only if the
loop has ended before; and the others do not notice if it is given up. -/
theorem calls_answered_once {engine : Engine} {maxConcurrent commandBuffer : Nat} {host : σ}
    {ms : List (Move σ)} {s₀ s : Service σ}
    (spawned : spawn maxConcurrent commandBuffer host = .ok s₀) (ran : run? engine ms s₀ = some s) :
    OneAnswer engine s₀ ms s := by
  obtain ⟨h, ledger₀, origins₀⟩ := spawn_sound spawned engine
  have there := run_inStep h ran
  have ledger := run_ledger h ledger₀ ran
  have origins := run_origins h origins₀ ran
  have reply {call : CallId} {r : Reply} : s.callStatus call = .answered r ↔
      (call, r) ∈ s.desk.replies :=
    callStatus_eq_answered.trans (Desk.reply?_eq_some ledger.replies_distinct)
  refine ⟨ledger.distinct, ?_, ?_, ?_, ?_, ?_, ?_⟩
  · intro more t ran' call resolved
    exact (run_onward there ran').status (run_ledger there ledger ran') resolved
  · intro call command r sent answered
    obtain ⟨command', sent', earned⟩ := origins.earned call r (reply.mp answered)
    rwa [origins.sole call command command' sent sent']
  · intro call a invoked
    exact reply.mpr (origins.told call a invoked)
  · intro running call made
    refine ⟨?_, ledger.outstanding_iff running made⟩
    intro closed
    rw [(callStatus_eq_closed.mp closed).2] at running
    cases running
  · intro ended more t ran' call unanswered
    have closed : s.callStatus call = .closed := by
      refine callStatus_eq_closed.mpr ⟨Desk.reply?_eq_none.mpr fun replied => ?_, ended⟩
      obtain ⟨⟨call, r⟩, member, rfl⟩ := List.mem_map.mp replied
      exact unanswered (ledger.made (List.mem_append_right _ replied)) r (reply.mpr member)
    rw [← closed]
    apply (run_onward there ran').status (run_ledger there ledger ran')
    rw [closed]
    exact nofun
  · intro call gaveUp
    obtain ⟨dispatcher, -, rfl⟩ := spawn_eq_ok spawned
    exact run_spared h ledger₀ List.not_mem_nil List.not_mem_nil ran gaveUp

/-- A request is answered to its caller while a second caller, of a flush, gives up. -/
theorem request_answered_once :
    let live : LiveFrame := ⟨⟨1, 2⟩, ⟨"https://a.example/"⟩⟩
    let engine : Engine := ⟨fun _ => .ok .ignored⟩
    let ms : List (Move Register) :=
      [.send 7 (.request [] ⟨"https://b.example/"⟩ .image live.id), .enqueue, .takeCommand,
        .send 8 .flush, .enqueue, .abandon 8, .start 0, .finish 0, .takeCommand, .takeOutcome]
    let s₀ : Service Register :=
      { dispatcher := { queue := { free := 1 }, stage := { host := { host := ⟨[live]⟩ } } }
        capacity := 1 }
    ∃ s, run? engine ms s₀ = some s ∧ OneAnswer engine s₀ ms s ∧ s.replied = [8, 7] := by
  intro live engine ms s₀
  have outcome : (run? engine ms s₀).map replied = some [8, 7] := by decide
  obtain ⟨s, ran, replied⟩ := Option.map_eq_some_iff.mp outcome
  have spawned : spawn 1 1 ⟨[live]⟩ = .ok s₀ := rfl
  exact ⟨s, ran, calls_answered_once spawned ran, replied⟩

end FilterDispatch.Service
