import FilterDispatch.Proofs.Dispatcher.Spans
import FilterDispatch.Proofs.Service.Barrier

/-!
The loop of a service as one more way of draining.  While it takes no commands it does what its
dispatcher's own calls would do, but for the flushes that are answered when nothing is in flight.
-/

namespace FilterDispatch

namespace Service

variable {σ : Type} [Host σ]

/-- A time in which the loop takes nothing but outcomes: these arrive, and those of the deliveries are
taken.  Nobody panics. -/
inductive Span : Service σ → List (Finished JobOutput) → List (Dispatcher.Delivery (Desk σ)) →
    Service σ → Prop
  | done (s : Service σ) : Span s [] [] s
  | worked {s t : Service σ} {queue arrived arrivals xs} :
      s.dispatcher.queue.Worked queue arrived →
      Span { s with dispatcher := { s.dispatcher with queue } } arrivals xs t →
      Span s (arrived ++ arrivals) xs t
  | taken {s t u : Service σ} {arrivals xs} : s.takeOutcome? = some t → t.isRunning = true →
      Span t arrivals xs u → Span s arrivals (Dispatcher.deliveries 1 s.dispatcher ++ xs) u

variable {engine : Engine} {s t : Service σ} {arrivals : List (Finished JobOutput)}
  {xs : List (Dispatcher.Delivery (Desk σ))}

theorem Span.idle (span : Span s arrivals xs t) (h : s.dispatcher.Orderly)
    (idle : s.dispatcher.inFlight = 0) : arrivals = [] ∧ xs = [] ∧
      ∃ queue, s.dispatcher.queue.Worked queue [] ∧
        t = { s with dispatcher := { s.dispatcher with queue } } := by
  induction span with
  | done s => exact ⟨rfl, rfl, _, .refl _, rfl⟩
  | worked worked _ ih =>
      obtain rfl := worked.nothing h.accounted idle
      obtain ⟨rfl, rfl, queue, more, rfl⟩ := ih (h.worked worked) (worked.count.trans idle)
      exact ⟨rfl, rfl, queue, worked.trans more, rfl⟩
  | @taken s t u _ _ taken =>
      have none : s.takeOutcome? = none := by
        simp [takeOutcome?, WorkQueue.next, show s.dispatcher.queue.inFlight = 0 from idle]
      rw [none] at taken
      cases taken

theorem take_next (engine : Engine) (h : s.dispatcher.Orderly) (taken : s.takeOutcome? = some t)
    (running : t.isRunning = true) : ∃ r d, s.isRunning = true ∧
      Dispatcher.step engine .next s.dispatcher = (.ok r, d) ∧
      t = ({ s with dispatcher := d } : Service σ).answerFlushes ∧
      Dispatcher.deliveries 1 s.dispatcher ≠ [] := by
  obtain ⟨runs, there, rfl⟩ := (takeOutcome?_eq_some engine h.accounted).mp taken
  rw [answerFlushes_isRunning] at running
  obtain ⟨-, r, fine⟩ := operate_running engine running
  refine ⟨r, _, runs, Prod.ext fine rfl, ?_, ?_⟩
  · rw [operate_eq, fine]
  · cases found : s.dispatcher.queue.tryNext with
    | none => exact absurd (WorkQueue.tryNext_eq_none.mp found) there
    | some next =>
        simp only [Dispatcher.deliveries, found]
        split <;> exact List.cons_ne_nil _ _

/-- What the loop does in a span, its dispatcher does in one of its own; when nothing is in flight any
more, the loop answers the flushes that waited. -/
theorem Span.own (engine : Engine) (span : Span s arrivals xs t) (h : s.dispatcher.Orderly) :
    ∃ e, Dispatcher.Span engine s.dispatcher arrivals xs e ∧
      t = if xs = [] then { s with dispatcher := e }
        else ({ s with dispatcher := e } : Service σ).answerFlushes := by
  induction span with
  | done s => exact ⟨_, .done _, rfl⟩
  | worked worked _ ih =>
      obtain ⟨e, own, last⟩ := ih (h.worked worked)
      exact ⟨e, .worked worked own, last⟩
  | @taken s t u arrivals xs taken running span ih =>
      obtain ⟨r, d, runs, stepped, same, some⟩ := take_next engine h taken running
      have after : d.Orderly := h.stepped stepped
      have first : Dispatcher.deliveries 1 s.dispatcher ++ xs ≠ [] := by simp [some]
      rw [answerFlushes_eq] at same
      by_cases idle : d.inFlight = 0
      · rw [if_pos ⟨runs, idle⟩] at same
        subst same
        obtain ⟨rfl, rfl, queue, worked, rfl⟩ :=
          span.idle ⟨after.accounted, after.distinct, after.among⟩ idle
        have worked : d.queue.Worked queue [] := worked
        have still : queue.inFlight = 0 := worked.count.trans idle
        have rest : Dispatcher.Span engine d [] [] { d with queue } := .worked worked (.done _)
        refine ⟨{ d with queue }, .drained rfl stepped rest, ?_⟩
        rw [if_neg first, answerFlushes_eq, if_pos ⟨runs, still⟩]
        rfl
      · rw [if_neg fun both => idle both.2] at same
        subst same
        obtain ⟨e, own, rfl⟩ := ih after
        refine ⟨e, .drained rfl stepped own, ?_⟩
        rw [if_neg first]
        split
        · next none =>
            subst none
            have level := (own.queue after).2.1
            have busy : e.inFlight ≠ 0 := fun none => idle (by rw [level, none]; rfl)
            rw [answerFlushes_eq, if_neg fun both => busy both.2]
        · rfl

/-- Whatever is done with a service, its dispatcher is in a state that dispatchers come to. -/
theorem run_reached {maxConcurrent commandBuffer : Nat} {host : σ} {s₀ : Service σ}
    {ms : List (Move σ)} (spawned : spawn maxConcurrent commandBuffer host = .ok s₀)
    (ran : run? engine ms s₀ = some s) :
    Dispatcher.Reached engine maxConcurrent { host } s.dispatcher := by
  obtain ⟨dispatcher, made, rfl⟩ := spawn_eq_ok spawned
  have h := (Dispatcher.new_inStep engine made).1
  exact run_induction
    (P := fun _ t => Dispatcher.Reached engine maxConcurrent ({ host } : Desk σ) t.dispatcher)
    (.new made) (fun _ _ _ _ earlier kept moved =>
      kept.leads ((step?_cases engine (run_inStep h earlier) moved).leads engine)) ms s ran

/-- Every way of draining a dispatcher delivers the same in the same order and leads to the same
dispatcher, and so does the loop of a service that takes nothing but outcomes. -/
theorem drains_agree (engine : Engine) (maxConcurrent : Nat) (host : σ) :
    (∀ d : Dispatcher σ, Dispatcher.Reached engine maxConcurrent host d →
      Dispatcher.Drains engine d) ∧
    ∀ s : Service σ, Dispatcher.Reached engine maxConcurrent { host } s.dispatcher →
      ∀ arrivals xs t ys e, Span s arrivals xs t →
        Dispatcher.Span engine s.dispatcher arrivals ys e → t.dispatcher.inFlight = e.inFlight →
        xs.map Dispatcher.Delivery.seen = ys.map Dispatcher.Delivery.seen ∧
          let s' : Service σ :=
            { s with dispatcher := { e with queue := t.dispatcher.queue.withWorkers e.queue } }
          t = if xs = [] then s' else s'.answerFlushes := by
  refine ⟨fun d reached => reached.drains, fun s reached arrivals xs t ys e span other level => ?_⟩
  obtain ⟨f, own, rfl⟩ := span.own engine reached.orderly
  have queue : (if xs = [] then { s with dispatcher := f }
      else ({ s with dispatcher := f } : Service σ).answerFlushes).dispatcher.queue = f.queue := by
    split
    · rfl
    · exact answerFlushes_queue _
  rw [queue]
  obtain ⟨seen, same⟩ := other.agree own reached.orderly
    (level.symm.trans (congrArg WorkQueue.inFlight queue))
  exact ⟨seen.symm, by rw [← same]⟩

/-- Two rewrites whose jobs ended the other way round: the loop delivers them as one call of the
dispatcher would, and then answers the flush that waited. -/
theorem rewrites_drained :
    let live : LiveFrame := ⟨⟨1, 2⟩, ⟨"https://a.example/"⟩⟩
    let engine : Engine := ⟨fun _ => .ok .ignored⟩
    let rewrite : Command := .rewrite [] ⟨"https://b.example/"⟩ live.id
    let ms : List (Move Register) :=
      [.send 7 rewrite, .enqueue, .takeCommand, .send 8 rewrite, .enqueue, .takeCommand,
        .send 9 .flush, .enqueue, .takeCommand, .start 0, .start 1, .finish 1, .finish 0]
    let s₀ : Service Register :=
      { dispatcher := { queue := { free := 2 }, stage := { host := { host := ⟨[live]⟩ } } }
        capacity := 1 }
    ∃ s t u, run? engine ms s₀ = some s ∧ s.takeOutcome? = some t ∧ t.takeOutcome? = some u ∧
      Dispatcher.Drains engine s.dispatcher ∧
      (Dispatcher.deliveries 1 s.dispatcher ++ Dispatcher.deliveries 1 t.dispatcher).map
          Dispatcher.Delivery.seen =
        (Dispatcher.Op.untilIdle.deliveries s.dispatcher).map Dispatcher.Delivery.seen ∧
      u.replied = [9, 7, 8] := by
  intro live engine rewrite ms s₀
  have spawned : spawn 2 1 ⟨[live]⟩ = .ok s₀ := rfl
  have outcome : ((run? engine ms s₀).bind fun s => s.takeOutcome?.bind fun t =>
      t.takeOutcome?.map fun u => ((t.isRunning, u.isRunning),
        ((Dispatcher.step engine .untilIdle s.dispatcher).1,
          (Dispatcher.step engine .untilIdle s.dispatcher).2.inFlight), u.dispatcher.inFlight,
        u.replied)) = some ((true, true), (.ok (.progress .idle), 0), 0, [9, 7, 8]) := by
    decide +kernel
  obtain ⟨s, ran, rest⟩ := Option.bind_eq_some_iff.mp outcome
  obtain ⟨t, takes, rest⟩ := Option.bind_eq_some_iff.mp rest
  obtain ⟨u, takes', facts⟩ := Option.map_eq_some_iff.mp rest
  simp only [Prod.mk.injEq] at facts
  obtain ⟨⟨running, running'⟩, ⟨fine, idle⟩, idle', replied⟩ := facts
  have reached := run_reached spawned ran
  have span : Span s [] _ u := .taken takes running (.taken takes' running' (.done u))
  have own : Dispatcher.Span engine s.dispatcher [] _ _ :=
    .drained rfl (Prod.ext fine rfl) (.done _)
  have agree := (drains_agree engine 2 (⟨[live]⟩ : Register)).2 s reached _ _ _ _ _ span own
    (idle'.trans idle.symm)
  simp only [List.append_nil] at agree
  exact ⟨s, t, u, ran, takes, takes', (drains_agree engine 2 _).1 _ reached, agree.1, replied⟩

end Service

end FilterDispatch
