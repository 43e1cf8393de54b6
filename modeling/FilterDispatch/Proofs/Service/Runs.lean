import FilterDispatch.Proofs.Service.Answers

/-!
Runs of a service.  Replies are only ever added, and not even that once the loop has ended.
-/

namespace FilterDispatch

theorem Desk.reply?_eq_some {σ : Type} {d : Desk σ} (distinct : (d.replies.map (·.1)).Nodup)
    {call : CallId} {r : Reply} : d.reply? call = some r ↔ (call, r) ∈ d.replies :=
  Dispatcher.lookup_eq_some distinct

theorem Desk.reply?_eq_none {σ : Type} {d : Desk σ} {call : CallId} :
    d.reply? call = none ↔ call ∉ d.replies.map (·.1) := by
  rw [reply?, List.lookup_eq_none_iff, List.mem_map]
  constructor
  · rintro unlike ⟨⟨other, r⟩, member, rfl⟩
    exact absurd (unlike _ member) (by simp)
  · intro unlike entry member
    exact bne_iff_ne.mpr fun same => unlike ⟨entry, member, same.symm⟩

namespace Service

variable {σ : Type}

theorem callStatus_eq_answered {s : Service σ} {call : CallId} {r : Reply} :
    s.callStatus call = .answered r ↔ s.desk.reply? call = some r := by
  unfold callStatus
  cases s.desk.reply? call with
  | some r' => simp
  | none => cases s.isRunning <;> simp

theorem callStatus_eq_outstanding {s : Service σ} {call : CallId} :
    s.callStatus call = .outstanding ↔ s.desk.reply? call = none ∧ s.isRunning = true := by
  unfold callStatus
  cases s.desk.reply? call with
  | some r' => simp
  | none => cases s.isRunning <;> simp

theorem callStatus_eq_closed {s : Service σ} {call : CallId} :
    s.callStatus call = .closed ↔ s.desk.reply? call = none ∧ s.isRunning = false := by
  unfold callStatus
  cases s.desk.reply? call with
  | some r' => simp
  | none => cases s.isRunning <;> simp

theorem isOpen_iff {s : Service σ} {call : CallId} : s.isOpen call = true ↔
    (s.desk.reply? call = none ∧ s.isRunning = true) ∧ call ∉ s.abandoned := by
  rw [isOpen, Bool.and_eq_true, decide_eq_true_eq, callStatus_eq_outstanding, Bool.not_eq_true',
    List.contains_eq_mem, decide_eq_false_iff_not]

theorem Ledger.distinct {hand : List Sent} {s : Service σ} (ledger : s.Ledger hand) :
    (s.held hand ++ s.replied).Nodup := by
  rw [List.nodup_iff_count_le_one]
  intro call
  rw [List.count_append]
  exact ledger.once call

theorem Ledger.held_unanswered {hand : List Sent} {s : Service σ} (ledger : s.Ledger hand)
    {call : CallId} (held : call ∈ s.held hand) : s.desk.reply? call = none := by
  rw [Desk.reply?_eq_none]
  exact fun replied => (List.nodup_append.mp ledger.distinct).2.2 call held call replied rfl

theorem Ledger.made {hand : List Sent} {s : Service σ} (ledger : s.Ledger hand) {call : CallId}
    (there : call ∈ s.held hand ++ s.replied) : call ∈ s.calls := by
  apply ledger.known call
  rw [entries, ← List.count_append]
  exact List.count_pos_iff.mpr there

theorem Ledger.arriving_distinct {hand : List Sent} {s : Service σ} (ledger : s.Ledger hand) :
    (s.arriving.map (·.call)).Nodup :=
  ledger.distinct.of_append_left.of_append_left

variable [Host σ] {engine : Engine} {ms : List (Move σ)} {s₀ s t : Service σ}

theorem run?_append (first later : List (Move σ)) (s : Service σ) :
    run? engine (first ++ later) s = (run? engine first s).bind (run? engine later) := by
  induction first generalizing s with
  | nil => rfl
  | cons m rest ih =>
      rw [List.cons_append, run?, run?]
      cases s.step? engine m with
      | none => rfl
      | some t => exact ih t

theorem run?_snoc {m : Move σ} (ran : run? engine ms s₀ = some s)
    (moved : s.step? engine m = some t) : run? engine (ms ++ [m]) s₀ = some t := by
  rw [run?_append, ran, Option.bind_some, run?, moved]
  rfl

theorem run_induction {P : List (Move σ) → Service σ → Prop} (start : P [] s₀)
    (next : ∀ ms s m t, run? engine ms s₀ = some s → P ms s → s.step? engine m = some t →
      P (ms ++ [m]) t) : ∀ ms s, run? engine ms s₀ = some s → P ms s := by
  have onward : ∀ ms before s t, run? engine before s₀ = some s → P before s →
      run? engine ms s = some t → P (before ++ ms) t := by
    intro ms
    induction ms with
    | nil =>
        intro before s t _ kept ran
        cases ran
        rwa [List.append_nil]
    | cons m rest ih =>
        intro before s t earlier kept ran
        rw [run?] at ran
        split at ran
        · next u moved =>
            have now := run?_snoc earlier moved
            have there := ih (before ++ [m]) u t now (next before s m u earlier kept moved) ran
            rwa [List.append_assoc] at there
        · cases ran
  intro ms s ran
  exact onward ms [] s₀ s rfl start ran

theorem run_turning {Q : Service σ → Prop} (ran : run? engine ms s = some t) (before : ¬Q s)
    (after : Q t) : ∃ first m rest u v, ms = first ++ m :: rest ∧ run? engine first s = some u ∧
      u.step? engine m = some v ∧ run? engine rest v = some t ∧ ¬Q u ∧ Q v := by
  induction ms generalizing s with
  | nil =>
      cases ran
      exact absurd after before
  | cons m ms ih =>
      rw [run?] at ran
      split at ran
      · next v moved =>
          by_cases now : Q v
          · exact ⟨[], m, ms, s, v, rfl, rfl, moved, ran, before, now⟩
          · obtain ⟨first, m', rest, u, w, rfl, ran', moved', ran'', before', after'⟩ := ih ran now
            refine ⟨m :: first, m', rest, u, w, rfl, ?_, moved', ran'', before', after'⟩
            rw [run?, moved]
            exact ran'
      · cases ran

theorem run_inStep (h : s.dispatcher.InStep engine) (ran : run? engine ms s = some t) :
    t.dispatcher.InStep engine :=
  run_induction (P := fun _ t => t.dispatcher.InStep engine) h
    (fun _ _ _ _ _ kept moved => (step?_cases engine kept moved).inStep engine kept) ms t ran

theorem run_ledger (h : s.dispatcher.InStep engine) (ledger : s.Ledger [])
    (ran : run? engine ms s = some t) : t.Ledger [] :=
  run_induction (P := fun _ t => t.Ledger []) ledger
    (fun _ _ _ _ earlier kept moved =>
      have there := run_inStep h earlier
      kept.step there (step?_cases engine there moved)) ms t ran

theorem run_origins (h : s₀.dispatcher.InStep engine) (origins : Origins engine s₀ [] s₀)
    (ran : run? engine ms s₀ = some s) : Origins engine s₀ ms s :=
  run_induction (P := Origins engine s₀) origins
    (fun _ _ _ _ earlier kept moved =>
      have there := run_inStep h earlier
      kept.step earlier there (step?_cases engine there moved)) ms s ran

omit [Host σ] in
theorem spawn_eq_ok {maxConcurrent commandBuffer : Nat} {host : σ}
    (spawned : spawn maxConcurrent commandBuffer host = .ok s₀) :
    ∃ dispatcher, Dispatcher.new maxConcurrent ({ host } : Desk σ) = .ok dispatcher ∧
      s₀ = { dispatcher, capacity := max 1 commandBuffer } := by
  unfold spawn at spawned
  split at spawned
  · cases spawned
  · next dispatcher made =>
      dsimp only at spawned
      split at spawned
      · cases spawned
      · cases spawned
        exact ⟨dispatcher, made, rfl⟩

theorem spawn_sound {maxConcurrent commandBuffer : Nat} {host : σ}
    (spawned : spawn maxConcurrent commandBuffer host = .ok s₀) (engine : Engine) :
    s₀.dispatcher.InStep engine ∧ s₀.Ledger [] ∧ Origins engine s₀ [] s₀ := by
  obtain ⟨dispatcher, made, rfl⟩ := spawn_eq_ok spawned
  obtain ⟨start, empty, silent⟩ := Dispatcher.new_inStep engine made
  have replies : dispatcher.stage.host.replies = [] := by
    rw [Dispatcher.new_host made]
  have vacant : dispatcher.awaited = [] := by
    rw [Dispatcher.awaited, empty, List.filterMap_nil]
  refine ⟨start, ?_, ?_⟩
  · have none : ∀ call, entries []
        { dispatcher, capacity := max 1 commandBuffer : Service σ } call = 0 := fun call => by
      simp [entries, held, replied, desk, vacant, replies]
    refine ⟨?_, ?_, ?_⟩
    · intro call
      rw [none]
      exact Nat.zero_le 1
    · intro call there
      rw [none] at there
      cases there
    · intro _ call
      exact fun made => absurd made List.not_mem_nil
  · refine ⟨by simp, by simp, by simp, ?_, by simp, ?_, ?_⟩
    · simp [vacant]
    · simp [desk, replies]
    · simp [silent]

theorem operate_replies (engine : Engine) (op : Dispatcher.Op (Desk σ))
    (acts : op.changesHost = false) (s : Service σ) :
    s.desk.replies <:+ (s.operate engine op).desk.replies := by
  obtain ⟨new, -, replies⟩ := Dispatcher.perform_along Desk.kept engine acts s.dispatcher
  rw [← Dispatcher.step_final] at replies
  rw [operate_eq, desk, desk, replies]
  exact List.suffix_append _ _

theorem handle_replies (engine : Engine) (x : Sent) (s : Service σ) :
    s.desk.replies <:+ (s.handle x).desk.replies := by
  have handled := handle_cases engine x s
  generalize s.handle x = t at handled
  cases handled with
  | operated own acts => exact operate_replies engine _ acts s
  | @answered snapshot url frame =>
      exact (operate_replies engine (.popup snapshot url frame) rfl s).trans (List.suffix_cons _ _)
  | @panicked snapshot url frame => exact operate_replies engine (.popup snapshot url frame) rfl s
  | waits => exact List.suffix_refl _
  | stops => exact List.suffix_refl _

omit [Host σ] in
theorem answerFlushes_replies (s : Service σ) :
    s.desk.replies <:+ s.answerFlushes.desk.replies := by
  rw [answerFlushes_eq]
  split
  · exact List.suffix_append _ _
  · exact List.suffix_refl _

theorem Step.replies {m : Move σ} (step : Step engine s m t) :
    s.desk.replies <:+ t.desk.replies := by
  cases step with
  | send fresh some =>
      rw [Service.send]
      split <;> exact List.suffix_refl _
  | abandon open' member => exact List.suffix_refl _
  | cloneHandle some => exact List.suffix_refl _
  | dropHandle some => exact List.suffix_refl _
  | enqueue running arriving room =>
      rw [enter]
      split
      · exact List.suffix_refl _
      · exact List.suffix_cons _ _
  | @takeCommand x rest running channel =>
      exact (handle_replies engine x { s with channel := rest }).trans (answerFlushes_replies _)
  | takeOutcome running there =>
      exact (operate_replies engine .next rfl s).trans (answerFlushes_replies _)
  | hangUp running channel arriving hungUp => exact List.suffix_refl _
  | @start id => exact operate_replies engine (.start id) rfl s
  | @finish id => exact operate_replies engine (.finish id) rfl s
  | changeHost => exact List.suffix_refl _

omit [Host σ] in
/-- Nothing of all that the loop sees to has changed. -/
structure Still (s t : Service σ) : Prop where
  status : t.status = s.status
  channel : t.channel = s.channel
  waiters : t.flushWaiters = s.flushWaiters
  pending : t.dispatcher.pending = s.dispatcher.pending
  observers : t.dispatcher.observers = s.dispatcher.observers
  effects : t.dispatcher.stage.effects = s.dispatcher.stage.effects
  replies : t.desk.replies = s.desk.replies

omit [Host σ] in
instance : IsPreorder (Service σ) Still where
  refl _ := ⟨rfl, rfl, rfl, rfl, rfl, rfl, rfl⟩
  trans _ _ _ first later :=
    ⟨later.status.trans first.status, later.channel.trans first.channel,
      later.waiters.trans first.waiters, later.pending.trans first.pending,
      later.observers.trans first.observers, later.effects.trans first.effects,
      later.replies.trans first.replies⟩

theorem Step.still {m : Move σ} (step : Step engine s m t) (ended : s.isRunning = false) :
    Still s t := by
  have busy {α : Prop} (running : s.isRunning = true) : α := by
    rw [running] at ended
    cases ended
  cases step with
  | send fresh some =>
      rw [Service.send]
      split <;> exact ⟨rfl, rfl, rfl, rfl, rfl, rfl, rfl⟩
  | abandon => exact ⟨rfl, rfl, rfl, rfl, rfl, rfl, rfl⟩
  | cloneHandle => exact ⟨rfl, rfl, rfl, rfl, rfl, rfl, rfl⟩
  | dropHandle => exact ⟨rfl, rfl, rfl, rfl, rfl, rfl, rfl⟩
  | enqueue running => exact busy running
  | takeCommand running => exact busy running
  | takeOutcome running => exact busy running
  | hangUp running => exact busy running
  | @start id =>
      rw [operate_start]
      refine ⟨rfl, rfl, rfl, ?_, ?_, ?_, ?_⟩
      all_goals
        simp only [desk, Dispatcher.start]
        cases s.dispatcher.queue.start? id <;> rfl
  | @finish id =>
      rw [operate_finish]
      refine ⟨rfl, rfl, rfl, ?_, ?_, ?_, ?_⟩
      all_goals
        simp only [desk, Dispatcher.finish]
        cases s.dispatcher.queue.finish? (Job.run engine) id <;> rfl
  | changeHost => exact ⟨rfl, rfl, rfl, rfl, rfl, rfl, rfl⟩

/-- Once the loop has ended nothing is replied any more. -/
theorem Step.ended {m : Move σ} (step : Step engine s m t) (ended : s.isRunning = false) :
    t.isRunning = false ∧ t.desk.replies = s.desk.replies := by
  have still := step.still ended
  refine ⟨?_, still.replies⟩
  rw [isRunning, still.status]
  exact ended

theorem Step.clients {m : Move σ} (step : Step engine s m t) :
    t.calls = m.made?.toList ++ s.calls ∧ t.abandoned = m.gaveUp?.toList ++ s.abandoned ∧
      ∀ x ∈ t.arriving, x ∈ s.arriving ∨ x.call ∉ s.calls := by
  have same {u : Service σ} (clients : SameClients s u) : u.calls = s.calls ∧
      u.abandoned = s.abandoned ∧ ∀ x ∈ u.arriving, x ∈ s.arriving ∨ x.call ∉ s.calls := by
    rw [clients.arriving]
    exact ⟨clients.calls, clients.abandoned, fun x member => .inl member⟩
  cases step with
  | @send call command fresh some =>
      refine ⟨send_calls call command s, send_abandoned call command s, ?_⟩
      intro x member
      rw [Service.send] at member
      split at member
      · rcases List.mem_append.mp member with old | new
        · exact .inl old
        · cases List.mem_singleton.mp new
          exact .inr fresh
      · exact .inl member
  | abandon open' member =>
      exact ⟨rfl, rfl, fun x member => .inl (List.mem_of_mem_filter member)⟩
  | cloneHandle some => exact same ⟨rfl, rfl, rfl⟩
  | dropHandle some => exact same ⟨rfl, rfl, rfl⟩
  | @enqueue x rest running arriving room =>
      refine ⟨enter_calls x rest s, enter_abandoned x rest s, fun y member => .inl ?_⟩
      rw [enter_arriving] at member
      rw [arriving]
      exact List.mem_cons_of_mem _ member
  | @takeCommand x rest running channel =>
      exact same (command_clients engine x rest s)
  | takeOutcome running there => exact same (outcome_clients engine s)
  | hangUp running channel arriving hungUp => exact same ⟨rfl, rfl, rfl⟩
  | @start id => exact same (operate_clients engine (.start id) s)
  | @finish id => exact same (operate_clients engine (.finish id) s)
  | changeHost => exact same ⟨rfl, rfl, rfl⟩

omit [Host σ] in
/-- What the second state keeps of the first, however much later it is. -/
structure Onward (s t : Service σ) : Prop where
  calls : s.calls ⊆ t.calls
  abandoned : s.abandoned ⊆ t.abandoned
  gone : ∀ call ∈ s.calls, (∀ x ∈ s.arriving, x.call ≠ call) → ∀ x ∈ t.arriving, x.call ≠ call
  replies : s.desk.replies <:+ t.desk.replies
  ended : s.isRunning = false → t.isRunning = false ∧ t.desk.replies = s.desk.replies

omit [Host σ] in
instance : IsPreorder (Service σ) Onward where
  refl s := ⟨List.Subset.refl _, List.Subset.refl _, fun _ _ gone => gone, List.suffix_refl _,
    fun ended => ⟨ended, rfl⟩⟩
  trans s t u first later := by
    refine ⟨List.Subset.trans first.calls later.calls,
      List.Subset.trans first.abandoned later.abandoned, ?_, first.replies.trans later.replies,
      ?_⟩
    · intro call member gone
      exact later.gone call (first.calls member) (first.gone call member gone)
    · intro ended
      obtain ⟨ended', same⟩ := first.ended ended
      obtain ⟨ended'', same'⟩ := later.ended ended'
      exact ⟨ended'', same'.trans same⟩

theorem Step.onward {m : Move σ} (step : Step engine s m t) : Onward s t := by
  obtain ⟨calls, abandoned, arriving⟩ := step.clients
  refine ⟨?_, ?_, ?_, step.replies, step.ended⟩
  · rw [calls]
    exact List.subset_append_right _ _
  · rw [abandoned]
    exact List.subset_append_right _ _
  · intro call member gone x there
    rcases arriving x there with before | new
    · exact gone x before
    · rintro rfl
      exact new member

theorem run_onward (h : s.dispatcher.InStep engine) (ran : run? engine ms s = some t) :
    Onward s t :=
  run_induction (P := fun _ t => Onward s t) (refl_of Onward s)
    (fun _ _ _ _ earlier kept moved =>
      trans_of Onward kept (step?_cases engine (run_inStep h earlier) moved).onward) ms t ran

end Service

end FilterDispatch
