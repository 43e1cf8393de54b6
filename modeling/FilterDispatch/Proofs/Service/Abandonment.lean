import FilterDispatch.Proofs.Service.Runs

/-!
Calls that are given up.  The loop does not look at its clients: a run goes on in the same way if a
caller waits on, or if the call whose command never got into the channel is not made.
-/

namespace FilterDispatch.Service

variable {σ : Type}

/-- The same loop, with all that the clients did told otherwise. -/
def withClients (calls abandoned : List CallId) (arriving : List Sent) (s : Service σ) :
    Service σ :=
  { s with calls, abandoned, arriving }

/-- A move that neither sees nor changes who the clients are. -/
def Blind (move : Service σ → Option (Service σ)) : Prop :=
  ∀ calls abandoned arriving s, move (s.withClients calls abandoned arriving) =
    (move s).map (withClients calls abandoned arriving)

section
variable (calls abandoned : List CallId) (arriving : List Sent) (s : Service σ)

@[simp]
theorem isRunning_withClients :
    (s.withClients calls abandoned arriving).isRunning = s.isRunning := rfl

@[simp]
theorem dispatcher_withClients :
    (s.withClients calls abandoned arriving).dispatcher = s.dispatcher := rfl

@[simp]
theorem channel_withClients : (s.withClients calls abandoned arriving).channel = s.channel := rfl

theorem answerFlushes_withClients : (s.withClients calls abandoned arriving).answerFlushes =
    s.answerFlushes.withClients calls abandoned arriving := by
  have idle_iff : (s.withClients calls abandoned arriving).isRunning = true ∧
      (s.withClients calls abandoned arriving).dispatcher.inFlight = 0 ↔
      s.isRunning = true ∧ s.dispatcher.inFlight = 0 := Iff.rfl
  rw [answerFlushes_eq, answerFlushes_eq]
  by_cases idle : s.isRunning = true ∧ s.dispatcher.inFlight = 0
  · rw [if_pos (idle_iff.mpr idle), if_pos idle]
    rfl
  · rw [if_neg (mt idle_iff.mp idle), if_neg idle]

theorem onDispatcher_withClients (m : Control (Dispatcher (Desk σ)) Unit) :
    (s.withClients calls abandoned arriving).onDispatcher m =
      (s.onDispatcher m).withClients calls abandoned arriving := by
  simp only [onDispatcher, dispatcher_withClients]
  split <;> rfl

variable [Host σ]

theorem popup_withClients (call : CallId) (snapshot : Snapshot) (url : Url) (frame : FrameId) :
    (s.withClients calls abandoned arriving).popup call snapshot url frame =
      (s.popup call snapshot url frame).withClients calls abandoned arriving := by
  simp only [popup, dispatcher_withClients]
  split <;> rfl

theorem handle_withClients (x : Sent) : (s.withClients calls abandoned arriving).handle x =
    (s.handle x).withClients calls abandoned arriving := by
  unfold handle
  split
  · exact popup_withClients calls abandoned arriving s _ _ _ _
  · exact onDispatcher_withClients calls abandoned arriving s _
  · exact onDispatcher_withClients calls abandoned arriving s _
  · exact onDispatcher_withClients calls abandoned arriving s _
  · exact onDispatcher_withClients calls abandoned arriving s _
  · exact onDispatcher_withClients calls abandoned arriving s _
  · rfl
  · rfl
  · rfl
  · rfl

end

section
variable (σ) [Host σ]

theorem blind_takeCommand : Blind (takeCommand? : Service σ → Option (Service σ)) := by
  intro calls abandoned arriving s
  have running_iff := isRunning_withClients calls abandoned arriving s
  unfold takeCommand?
  rw [channel_withClients]
  cases s.channel with
  | nil => rfl
  | cons x rest =>
      have handled := handle_withClients calls abandoned arriving { s with channel := rest } x
      by_cases running : s.isRunning = true
      · simp only [if_pos (running_iff.trans running), if_pos running]
        rw [Option.map_some, ← answerFlushes_withClients, ← handled]
        rfl
      · simp only [if_neg (mt running_iff.symm.trans running), if_neg running]
        rfl

theorem blind_takeOutcome : Blind (takeOutcome? : Service σ → Option (Service σ)) := by
  intro calls abandoned arriving s
  have running_iff := isRunning_withClients calls abandoned arriving s
  unfold takeOutcome?
  by_cases running : s.isRunning = true
  · rw [if_pos (running_iff.trans running), if_pos running, dispatcher_withClients]
    cases s.dispatcher.queue.next with
    | taken f queue =>
        have completed := onDispatcher_withClients calls abandoned arriving
          { s with dispatcher := { s.dispatcher with queue } } (Dispatcher.complete f)
        rw [Option.map_some, ← answerFlushes_withClients, ← completed]
        rfl
    | _ => rfl
  · rw [if_neg (mt running_iff.symm.trans running), if_neg running]
    rfl

omit [Host σ] in
theorem blind_start (id : JobId) : Blind (start? id : Service σ → Option (Service σ)) := by
  intro calls abandoned arriving s
  simp only [start?, dispatcher_withClients]
  split <;> rfl

omit [Host σ] in
theorem blind_finish (engine : Engine) (id : JobId) :
    Blind (finish? engine id : Service σ → Option (Service σ)) := by
  intro calls abandoned arriving s
  simp only [finish?, dispatcher_withClients]
  split <;> rfl

end

/-- Nobody gave up this call, and no command of it waits; who made which call is as told. -/
def without (call : CallId) (calls : List CallId) (s : Service σ) : Service σ :=
  s.withClients calls (s.abandoned.filter (· ≠ call)) (s.arriving.filter (·.call ≠ call))

theorem isOpen_without {call other : CallId} (differs : other ≠ call) (calls : List CallId)
    (s : Service σ) : (s.without call calls).isOpen other = s.isOpen other := by
  have status : (s.without call calls).callStatus other = s.callStatus other := rfl
  have member : (s.abandoned.filter (· ≠ call)).contains other = s.abandoned.contains other := by
    rw [Bool.eq_iff_iff, List.contains_iff_mem, List.contains_iff_mem, List.mem_filter]
    simp [differs]
  rw [isOpen, isOpen, status, without, withClients, member]

theorem send_without {call other : CallId} (differs : other ≠ call) (calls : List CallId)
    (command : Command) (s : Service σ) : (s.without call calls).send other command =
      (s.send other command).without call (other :: calls) := by
  by_cases running : s.isRunning = true
  · have sent : s.send other command =
        { s with calls := other :: s.calls, arriving := s.arriving ++ [⟨other, command⟩] } :=
      if_pos running
    have sent' : (s.without call calls).send other command =
        { s.without call calls with
          calls := other :: calls
          arriving := s.arriving.filter (·.call ≠ call) ++ [⟨other, command⟩] } := if_pos running
    rw [sent, sent']
    simp [without, withClients, List.filter_append, differs]
  · have sent : s.send other command = { s with calls := other :: s.calls } := if_neg running
    have sent' : (s.without call calls).send other command =
        { s.without call calls with calls := other :: calls } := if_neg running
    rw [sent, sent']
    rfl

theorem abandon_without {call other : CallId} (differs : other ≠ call) (calls : List CallId)
    (s : Service σ) :
    (s.without call calls).abandon other = (s.abandon other).without call calls := by
  simp [without, withClients, abandon, List.filter_filter, Bool.and_comm, differs]

theorem enter_without (call : CallId) (calls : List CallId) (x : Sent) (rest : List Sent)
    (s : Service σ) : (s.without call calls).enter x (rest.filter (·.call ≠ call)) =
      (s.enter x rest).without call calls := by
  unfold enter
  cases x.command.wantsReply with
  | true => rfl
  | false => rfl

theorem without_unused {call : CallId} {s : Service σ} (keeps : call ∉ s.abandoned)
    (gone : ∀ x ∈ s.arriving, x.call ≠ call) : s.without call s.calls = s := by
  have abandoned : s.abandoned.filter (· ≠ call) = s.abandoned :=
    List.filter_eq_self.mpr fun other member => decide_eq_true fun same => keeps (same ▸ member)
  have arriving : s.arriving.filter (·.call ≠ call) = s.arriving :=
    List.filter_eq_self.mpr fun x member => decide_eq_true (gone x member)
  rw [without, abandoned, arriving]
  rfl

/-- Making the call and giving it up do not show in the service without it. -/
theorem send_without_self (call : CallId) (calls : List CallId) (command : Command)
    (s : Service σ) : (s.send call command).without call calls = s.without call calls := by
  rw [send]
  split <;> simp [without, withClients]

theorem abandon_without_self (call : CallId) (calls : List CallId) (s : Service σ) :
    (s.abandon call).without call calls = s.without call calls := by
  simp [without, withClients, abandon]

/-- The second service is as the first, but for a call that was not given up or was not made. -/
def Alike (call : CallId) (s s' : Service σ) : Prop :=
  ∃ calls, (∀ other, other ≠ call → (other ∈ calls ↔ other ∈ s.calls)) ∧ s' = s.without call calls

variable {call : CallId} {s s' t : Service σ}

theorem Alike.blind (alike : Alike call s s') (move : Service σ → Option (Service σ))
    (blind : Blind move) (moved : move s = some t) : ∃ t', move s' = some t' ∧ Alike call t t' := by
  obtain ⟨calls, others, rfl⟩ := alike
  have own : t = t.withClients s.calls s.abandoned s.arriving := by
    have self : move s = (move s).map (withClients s.calls s.abandoned s.arriving) :=
      blind s.calls s.abandoned s.arriving s
    rw [moved, Option.map_some] at self
    exact Option.some.inj self
  refine ⟨t.without call calls, ?_, calls, ?_, rfl⟩
  · rw [without, blind, moved, Option.map_some, without, own]
    rfl
  · rw [own]
    exact others

variable [Host σ] {engine : Engine} {m : Move σ} {ms : List (Move σ)}

theorem Alike.step (alike : Alike call s s') (known : call ∈ s.calls)
    (moved : s.step? engine m = some t) (keeps : m ≠ .abandon call) (stays : m ≠ .hangUp)
    (passes : m = .enqueue → ∀ x rest, s.arriving = x :: rest → x.call ≠ call) :
    ∃ t', s'.step? engine m = some t' ∧ Alike call t t' := by
  cases m with
  | takeCommand => exact alike.blind _ (blind_takeCommand σ) moved
  | takeOutcome => exact alike.blind _ (blind_takeOutcome σ) moved
  | start id => exact alike.blind _ (blind_start σ id) moved
  | finish id => exact alike.blind _ (blind_finish σ engine id) moved
  | changeHost change =>
      exact alike.blind (fun s => some (s.changeHost change)) (fun _ _ _ _ => rfl) moved
  | hangUp => exact absurd rfl stays
  | send other command =>
      obtain ⟨calls, others, rfl⟩ := alike
      obtain ⟨⟨fresh, some⟩, rfl⟩ := (step?_send engine).mp moved
      have differs : other ≠ call := by
        rintro rfl
        exact fresh known
      have fresh' : other ∉ calls := by rwa [others other differs]
      refine ⟨_, (step?_send engine).mpr ⟨⟨fresh', some⟩, rfl⟩, other :: calls, ?_,
        send_without differs calls command s⟩
      intro c apart
      rw [send_calls, List.mem_cons, List.mem_cons, others c apart]
  | abandon other =>
      have differs : other ≠ call := fun same => keeps (same ▸ rfl)
      obtain ⟨calls, others, rfl⟩ := alike
      obtain ⟨⟨open', member⟩, rfl⟩ := (step?_abandon engine).mp moved
      rw [← isOpen_without differs calls] at open'
      exact ⟨_, (step?_abandon engine).mpr ⟨⟨open', (others other differs).mpr member⟩, rfl⟩, calls,
        others, abandon_without differs calls s⟩
  | cloneHandle =>
      obtain ⟨calls, others, rfl⟩ := alike
      obtain ⟨some, rfl⟩ := (step?_cloneHandle engine).mp moved
      exact ⟨_, (step?_cloneHandle engine).mpr ⟨some, rfl⟩, calls, others, rfl⟩
  | dropHandle =>
      obtain ⟨calls, others, rfl⟩ := alike
      obtain ⟨some, rfl⟩ := (step?_dropHandle engine).mp moved
      exact ⟨_, (step?_dropHandle engine).mpr ⟨some, rfl⟩, calls, others, rfl⟩
  | enqueue =>
      obtain ⟨calls, others, rfl⟩ := alike
      obtain ⟨x, rest, arriving, room, rfl⟩ := (step?_enqueue engine).mp moved
      have differs := passes rfl x rest arriving
      have waits : (s.without call calls).arriving = x :: rest.filter (·.call ≠ call) := by
        simp [without, withClients, arriving, differs]
      refine ⟨_, (step?_enqueue engine).mpr ⟨x, _, waits, room, rfl⟩, calls, ?_,
        enter_without call calls x rest s⟩
      rw [enter_calls]
      exact others

/-- Nobody hangs up as long as a caller waits. -/
def Move.stays : Move σ → Bool
  | .hangUp => false
  | _ => true

/-- In the first service everybody has hung up; in the second one the caller still waits. -/
structure Parted (call : CallId) (s s' : Service σ) : Prop where
  dispatcher : s'.dispatcher = s.dispatcher
  ended : s.isRunning = false
  handles : s.handles = 0
  answered : ∀ other ∈ s.calls, other ∉ s.abandoned → s.desk.reply? other ≠ none
  others : ∀ other, other ≠ call → (other ∈ s'.calls ↔ other ∈ s.calls)
  kept : call ∉ s'.abandoned

omit [Host σ] in
theorem Alike.kept (alike : Alike call s s') : call ∉ s'.abandoned := by
  obtain ⟨calls, -, rfl⟩ := alike
  simp [without, withClients]

theorem Alike.hungUp (alike : Alike call s s') (moved : s.step? engine .hangUp = some t) :
    Parted call t s' := by
  have kept := alike.kept
  obtain ⟨calls, others, rfl⟩ := alike
  obtain ⟨⟨⟨⟨running, channel⟩, arriving⟩, hungUp⟩, rfl⟩ := (step?_hangUp engine).mp moved
  simp only [Service.hungUp, Bool.and_eq_true, decide_eq_true_eq, Bool.not_eq_true',
    List.any_eq_false] at hungUp
  refine ⟨rfl, rfl, hungUp.1, ?_, others, kept⟩
  intro other member waits none
  exact hungUp.2 other member (isOpen_iff.mpr ⟨⟨none, running⟩, waits⟩)

theorem Parted.step (parted : Parted call s s') (h : s.dispatcher.InStep engine)
    (moved : s.step? engine m = some t) :
    m.stays = true ∧ ∃ t', s'.step? engine m = some t' ∧ Parted call t t' := by
  have busy {α : Prop} (running : s.isRunning = true) : α := by
    rw [parted.ended] at running
    cases running
  cases m with
  | start id =>
      refine ⟨rfl, ?_⟩
      simp only [step?, start?, parted.dispatcher] at moved ⊢
      split at moved
      · next queue started =>
          cases moved
          exact ⟨_, rfl, { parted with dispatcher := rfl }⟩
      · cases moved
  | finish id =>
      refine ⟨rfl, ?_⟩
      simp only [step?, finish?, parted.dispatcher] at moved ⊢
      split at moved
      · next queue done =>
          cases moved
          exact ⟨_, rfl, { parted with dispatcher := rfl }⟩
      · cases moved
  | changeHost change =>
      cases moved
      refine ⟨rfl, _, rfl, { parted with dispatcher := ?_ }⟩
      simp only [changeHost, changeDesk, parted.dispatcher]
  | send other command => exact absurd parted.handles ((step?_send engine).mp moved).1.2
  | abandon other =>
      exact busy (isOpen_iff.mp ((step?_abandon engine).mp moved).1.1).1.2
  | cloneHandle => exact absurd parted.handles ((step?_cloneHandle engine).mp moved).1
  | dropHandle => exact absurd parted.handles ((step?_dropHandle engine).mp moved).1
  | enqueue =>
      obtain ⟨x, rest, arriving, ⟨running, room⟩, entered⟩ := (step?_enqueue engine).mp moved
      exact busy running
  | takeCommand =>
      obtain ⟨x, rest, channel, running, handled⟩ := (step?_takeCommand engine).mp moved
      exact busy running
  | takeOutcome => exact busy ((takeOutcome?_eq_some engine h.accounted).mp moved).1
  | hangUp => exact busy ((step?_hangUp engine).mp moved).1.1.1.1

theorem Parted.run (parted : Parted call s s') (h : s.dispatcher.InStep engine)
    (ran : run? engine ms s = some t) :
    ∃ t', run? engine (ms.filter Move.stays) s' = some t' ∧ Parted call t t' := by
  induction ms generalizing s s' with
  | nil =>
      cases ran
      exact ⟨s', rfl, parted⟩
  | cons m rest ih =>
      rw [run?] at ran
      split at ran
      · next u moved =>
          obtain ⟨stays, u', moved', parted'⟩ := parted.step h moved
          rw [List.filter_cons_of_pos stays, run?, moved']
          exact ih parted' ((step?_cases engine h moved).inStep engine h) ran
      · cases ran

theorem Alike.run (alike : Alike call s s') (h : s.dispatcher.InStep engine)
    (known : call ∈ s.calls) (gaveUp : call ∈ s.abandoned) (gone : ∀ x ∈ s.arriving, x.call ≠ call)
    (ran : run? engine ms s = some t) : ∃ t', run? engine (ms.filter Move.stays) s' = some t' ∧
      (Alike call t t' ∨ Parted call t t') := by
  induction ms generalizing s s' with
  | nil =>
      cases ran
      exact ⟨s', rfl, .inl alike⟩
  | cons m rest ih =>
      rw [run?] at ran
      split at ran
      · next u moved =>
          have step := step?_cases engine h moved
          have later := step.inStep engine h
          have onward := step.onward
          cases stays : m.stays with
          | true =>
              have keeps : m ≠ .abandon call := by
                rintro rfl
                cases step with
                | abandon open' => exact (isOpen_iff.mp open').2 gaveUp
              have passes : m = .enqueue → ∀ x rest, s.arriving = x :: rest → x.call ≠ call :=
                fun _ x _ arriving => gone x (arriving ▸ List.mem_cons_self)
              obtain ⟨u', moved', alike'⟩ := alike.step known moved keeps
                (fun hangs => by rw [hangs] at stays; cases stays) passes
              rw [List.filter_cons_of_pos stays, run?, moved']
              exact ih alike' later (onward.calls known) (onward.abandoned gaveUp)
                (onward.gone call known gone) ran
          | false =>
              rw [List.filter_cons_of_neg (by simp [stays])]
              cases m with
              | hangUp =>
                  obtain ⟨t', ran', parted⟩ := (alike.hungUp moved).run later ran
                  exact ⟨t', ran', .inr parted⟩
              | _ => cases stays
      · cases ran

/-- As long as the command waits the loop does not notice it. -/
theorem Alike.meanwhile (alike : Alike call s s') (h : s.dispatcher.InStep engine)
    (ledger : s.Ledger []) (known : call ∈ s.calls) (ran : run? engine ms s = some t)
    (open' : t.isOpen call = true) (waits : ∃ x ∈ t.arriving, x.call = call) :
    ∃ t', run? engine ms s' = some t' ∧ Alike call t t' := by
  obtain ⟨⟨-, running⟩, patient⟩ := isOpen_iff.mp open'
  obtain ⟨waiting, there, own⟩ := waits
  induction ms generalizing s s' with
  | nil =>
      cases ran
      exact ⟨s', rfl, alike⟩
  | cons m rest ih =>
      rw [run?] at ran
      split at ran
      · next u moved =>
          have step := step?_cases engine h moved
          have later := step.inStep engine h
          have onward := run_onward later ran
          have keeps : m ≠ .abandon call := by
            rintro rfl
            cases step with
            | abandon => exact patient (onward.abandoned List.mem_cons_self)
          have stays : m ≠ .hangUp := by
            rintro rfl
            cases step with
            | hangUp =>
                rw [(onward.ended rfl).1] at running
                cases running
          have passes : m = .enqueue → ∀ x rest, s.arriving = x :: rest → x.call ≠ call := by
            rintro rfl x left arriving rfl
            cases step with
            | enqueue running' arriving' room =>
                cases arriving.symm.trans arriving'
                have distinct := ledger.arriving_distinct
                rw [arriving, List.map_cons, List.nodup_cons] at distinct
                refine onward.gone x.call ?_ ?_ waiting there own
                · rwa [enter_calls]
                · intro y member same
                  rw [enter_arriving] at member
                  exact distinct.1 (List.mem_map.mpr ⟨y, member, same⟩)
          obtain ⟨u', moved', alike'⟩ := alike.step known moved keeps stays passes
          rw [run?, moved']
          exact ih alike' later (ledger.step h step) (step.onward.calls known) ran
      · cases ran

/-- The call is not given up; or it is not even made, if its command was still waiting when it was
given up.  Nobody hangs up afterwards, as one caller more has a handle. -/
inductive Spared (engine : Engine) (s₀ : Service σ) (call : CallId) :
    List (Move σ) → List (Move σ) → Prop
  | patient {before after u} : run? engine before s₀ = some u → (∀ x ∈ u.arriving, x.call ≠ call) →
      Spared engine s₀ call (before ++ .abandon call :: after) (before ++ after.filter Move.stays)
  | unmade {before command between after u} :
      run? engine (before ++ .send call command :: between) s₀ = some u →
      (∃ x ∈ u.arriving, x.call = call) →
      Spared engine s₀ call (before ++ .send call command :: between ++ .abandon call :: after)
        (before ++ (between ++ after.filter Move.stays))

/-- What one call's being given up leaves as it is. -/
structure Undisturbed (call : CallId) (s s' : Service σ) : Prop where
  kept : call ∉ s'.abandoned
  dispatcher : s'.dispatcher = s.dispatcher
  others : ∀ other, other ≠ call → (other ∈ s'.calls ↔ other ∈ s.calls)
  answers : ∀ other ∈ s.calls, other ≠ call → other ∉ s.abandoned →
    s'.callStatus other = s.callStatus other

omit [Host σ] in
theorem Alike.undisturbed (alike : Alike call s s') : Undisturbed call s s' := by
  have kept := alike.kept
  obtain ⟨calls, others, rfl⟩ := alike
  exact ⟨kept, rfl, others, fun other member differs waits => rfl⟩

omit [Host σ] in
theorem Parted.undisturbed (parted : Parted call s s') : Undisturbed call s s' := by
  refine ⟨parted.kept, parted.dispatcher, parted.others, ?_⟩
  intro other member differs waits
  have answered := parted.answered other member waits
  have same : s'.desk.reply? other = s.desk.reply? other := by rw [desk, parted.dispatcher, desk]
  cases replied : s.desk.reply? other with
  | none => exact absurd replied answered
  | some r =>
      rw [callStatus_eq_answered.mpr replied, callStatus_eq_answered.mpr (same.trans replied)]

theorem run_abandoned {s₀ : Service σ} (h : s₀.dispatcher.InStep engine)
    (ran : run? engine ms s₀ = some s) (fresh : call ∉ s₀.abandoned) (gaveUp : call ∈ s.abandoned) :
    ∃ before after u, ms = before ++ .abandon call :: after ∧ run? engine before s₀ = some u ∧
      u.isOpen call = true ∧ call ∈ u.calls ∧ run? engine after (u.abandon call) = some s := by
  obtain ⟨before, m, after, u, v, rfl, first, moved, later, not, now⟩ :=
    run_turning (Q := fun s => call ∈ s.abandoned) ran fresh gaveUp
  have step := step?_cases engine (run_inStep h first) moved
  have turned := step.clients.2.1
  rw [turned, List.mem_append, Option.mem_toList] at now
  have here : m.gaveUp? = some call := now.resolve_right not
  cases step with
  | abandon open' member =>
      cases here
      exact ⟨before, after, u, rfl, first, open', member, later⟩
  | _ => cases here

theorem run_sent {s₀ : Service σ} (h : s₀.dispatcher.InStep engine)
    (ran : run? engine ms s₀ = some s) (fresh : call ∉ s₀.calls) (made : call ∈ s.calls) :
    ∃ before command after u, ms = before ++ .send call command :: after ∧
      run? engine before s₀ = some u ∧ Step engine u (.send call command) (u.send call command) ∧
      run? engine after (u.send call command) = some s := by
  obtain ⟨before, m, after, u, v, rfl, first, moved, later, not, now⟩ :=
    run_turning (Q := fun s => call ∈ s.calls) ran fresh made
  have step := step?_cases engine (run_inStep h first) moved
  have turned := step.clients.1
  rw [turned, List.mem_append, Option.mem_toList] at now
  have here : m.made? = some call := now.resolve_right not
  cases step with
  | @send _ command fresh some =>
      cases here
      exact ⟨before, command, after, u, rfl, first, .send fresh some, later⟩
  | _ => cases here

omit [Host σ] in
theorem alike_send (ledger : s.Ledger []) (command : Command) (fresh : call ∉ s.calls)
    (keeps : call ∉ s.abandoned) : Alike call (s.send call command) s := by
  have gone : ∀ x ∈ s.arriving, x.call ≠ call := by
    rintro x member rfl
    have waiting : x.call ∈ s.arriving.map (·.call) := List.mem_map_of_mem member
    exact fresh (ledger.made (List.mem_append_left _ (List.mem_append_left _ waiting)))
  refine ⟨s.calls, ?_, ?_⟩
  · intro other differs
    rw [send_calls, List.mem_cons, or_iff_right differs]
  · rw [send_without_self, without_unused keeps gone]

omit [Host σ] in
theorem alike_abandon (keeps : call ∉ s.abandoned) (gone : ∀ x ∈ s.arriving, x.call ≠ call) :
    Alike call (s.abandon call) s := by
  refine ⟨s.calls, fun _ _ => Iff.rfl, ?_⟩
  rw [abandon_without_self, without_unused keeps gone]

omit [Host σ] in
theorem Alike.abandon (alike : Alike call s s') : Alike call (s.abandon call) s' := by
  obtain ⟨calls, others, rfl⟩ := alike
  exact ⟨calls, others, (abandon_without_self call calls s).symm⟩

/-- Every run with a call given up has its like with that call not given up, or not made. -/
theorem run_spared {s₀ : Service σ} (h : s₀.dispatcher.InStep engine) (ledger : s₀.Ledger [])
    (unmade : call ∉ s₀.calls) (open₀ : call ∉ s₀.abandoned) (ran : run? engine ms s₀ = some s)
    (gaveUp : call ∈ s.abandoned) : ∃ ms' s', Spared engine s₀ call ms ms' ∧
      run? engine ms' s₀ = some s' ∧ Undisturbed call s s' := by
  obtain ⟨before, after, u, rfl, first, open', made, last⟩ := run_abandoned h ran open₀ gaveUp
  have keeps := (isOpen_iff.mp open').2
  have gone : ∀ x ∈ (u.abandon call).arriving, x.call ≠ call := fun x member =>
    of_decide_eq_true (List.mem_filter.mp member).2
  have there := run_inStep h first
  -- From the abandonment on, any service that differs in this call alone will do.
  have rest {u' : Service σ} (alike : Alike call (u.abandon call) u') : ∃ s',
      run? engine (after.filter Move.stays) u' = some s' ∧ Undisturbed call s s' := by
    obtain ⟨s', ran', same⟩ := alike.run there made List.mem_cons_self gone last
    exact ⟨s', ran', same.elim Alike.undisturbed Parted.undisturbed⟩
  by_cases waits : ∃ x ∈ u.arriving, x.call = call
  · obtain ⟨start, command, between, w, rfl, earlier, sent, ran'⟩ := run_sent h first unmade made
    have begun := run_inStep h earlier
    have account := run_ledger h ledger earlier
    have known : call ∈ (w.send call command).calls := by
      rw [send_calls]
      exact List.mem_cons_self
    have onward := trans_of Onward sent.onward (run_onward (sent.inStep engine begun) ran')
    have alike : Alike call (w.send call command) w := by
      cases sent with
      | send fresh some =>
          exact alike_send account command fresh fun before => keeps (onward.abandoned before)
    obtain ⟨u', ran'', alike'⟩ :=
      alike.meanwhile (sent.inStep engine begun) (account.step begun sent) known ran' open' waits
    obtain ⟨s', ran, undisturbed⟩ := rest alike'.abandon
    refine ⟨_, s', .unmade first waits, ?_, undisturbed⟩
    rw [run?_append, earlier, Option.bind_some, run?_append, ran'']
    exact ran
  · have gone : ∀ x ∈ u.arriving, x.call ≠ call := fun x member same => waits ⟨x, member, same⟩
    obtain ⟨s', ran', undisturbed⟩ := rest (alike_abandon keeps gone)
    refine ⟨_, s', .patient first gone, ?_, undisturbed⟩
    rw [run?_append, first]
    exact ran'

end FilterDispatch.Service
