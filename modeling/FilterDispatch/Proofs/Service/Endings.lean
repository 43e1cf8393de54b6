import FilterDispatch.Proofs.Dispatcher.Causes
import FilterDispatch.Proofs.Service.Barrier

/-!
The end of the loop.  It ends when it takes a shutdown, when nobody is left who could send, or by a
panic on the control sequence; a panic in the background is contained.  After the end nothing is
handled and nobody is told anything.
-/

namespace FilterDispatch

variable {σ : Type} [Host σ]

namespace Pending

omit [Host σ] in
/-- What the callback of an entry is told when nothing was decided. -/
def default? : Pending → Option (CallId × Answer)
  | .resource r => some (r.callback, .result .noRule)
  | .document _ _ => none
  | .rewrite _ callback => some (callback, .rewrite none)

omit [Host σ] in
theorem replies_error (entry : Pending) (e : JobError) : entry.replies (.error e) =
    (entry.default?.map fun told => Effect.callback told.1 told.2).toList := by
  cases entry <;> rfl

omit [Host σ] in
theorem report?_error (entry : Pending) (e : JobError) : entry.report? (.error e) = none := by
  cases entry <;> rfl

end Pending

theorem Call.hostPanics_desk {c : Call} {d : Desk σ} {p : Panic} :
    c.HostPanics d p ↔ ∃ h, c.look d.host = .error p h := by
  rw [← Desk.ofHost_panics, ← Desk.look_ofHost]
  constructor
  · rintro (looked | ⟨-, received⟩)
    · exact ⟨_, looked⟩
    · cases received
  · rintro ⟨e, looked⟩
    exact .asked looked

theorem Sight.panics_desk {snapshot : Snapshot} {url : Url} {frame : FrameId}
    {observers : ObserverList} {d : Desk σ} {p : Panic} :
    Sight.Panics snapshot url frame observers d p ↔
      Sight.Panics snapshot url frame observers d.host p := by
  have shown {s : Sight} {h : σ} (looked : Sight.look frame d.host = .ok (some s) h) :
      Sight.look frame d = .ok (some s) { d with host := h } := by
    rw [Desk.sight_ofHost]
    exact Desk.ofHost_eq_ok.mpr ⟨h, looked, rfl⟩
  constructor
  · rintro (looked | ⟨looked, ruled⟩ | ⟨looked, ruled, reports, cause⟩)
    all_goals rw [Desk.sight_ofHost] at looked
    · obtain ⟨h, looked, -⟩ := Desk.ofHost_eq_error.mp looked
      exact .asked looked
    · obtain ⟨h, looked', rfl⟩ := Desk.ofHost_eq_ok.mp looked
      obtain ⟨k, ruled', -⟩ := Desk.ofHost_eq_error.mp ruled
      exact .ruled looked' ruled'
    · obtain ⟨h, looked', rfl⟩ := Desk.ofHost_eq_ok.mp looked
      obtain ⟨k, ruled', rfl⟩ := Desk.ofHost_eq_ok.mp ruled
      rw [Desk.tellAll_ofHost] at cause
      obtain ⟨l, cause', -⟩ := Desk.ofHost_eq_error.mp cause
      exact .told looked' ruled' reports cause'
  · rintro (looked | ⟨looked, ruled⟩ | ⟨looked, ruled, reports, cause⟩)
    · have failed := Desk.ofHost_eq_error.mpr ⟨_, looked, rfl⟩
      rw [← Desk.sight_ofHost] at failed
      exact .asked failed
    · exact .ruled (shown looked) (Desk.ofHost_eq_error.mpr ⟨_, ruled, rfl⟩)
    · have failed := (Desk.ofHost_eq_error (d := { d with host := _ })).mpr ⟨_, cause, rfl⟩
      rw [← Desk.tellAll_ofHost] at failed
      exact .told (shown looked) (Desk.ofHost_eq_ok.mpr ⟨_, ruled, rfl⟩) reports failed

theorem Pending.reportPanics_desk {entry : Pending} {out : Except JobError JobOutput}
    {observers : ObserverList} {d : Desk σ} {p : Panic} :
    entry.ReportPanics out observers d p ↔ entry.ReportPanics out observers d.host p := by
  constructor
  · rintro (⟨reports, resolved⟩ | ⟨reports, resolved, cause⟩)
    · obtain ⟨h, resolved, -⟩ := Desk.ofHost_eq_error.mp resolved
      exact .asked reports resolved
    · obtain ⟨h, resolved', rfl⟩ := Desk.ofHost_eq_ok.mp resolved
      rw [Desk.tellAll_ofHost] at cause
      obtain ⟨k, cause', -⟩ := Desk.ofHost_eq_error.mp cause
      exact .told reports resolved' cause'
  · rintro (⟨reports, resolved⟩ | ⟨reports, resolved, cause⟩)
    · exact .asked reports (Desk.ofHost_eq_error.mpr ⟨_, resolved, rfl⟩)
    · have failed := (Desk.ofHost_eq_error (d := { d with host := _ })).mpr ⟨_, cause, rfl⟩
      rw [← Desk.tellAll_ofHost] at failed
      exact .told reports (Desk.ofHost_eq_ok.mpr ⟨_, resolved, rfl⟩) failed

/-- The callback of an entry puts its reply on the desk, and leaves the host behind it alone. -/
theorem Pending.replied_desk (entry : Pending) (out : Except JobError JobOutput) (d : Desk σ) :
    ∃ e : Desk σ, entry.replied out d = .ok () e ∧ e.host = d.host := by
  unfold Pending.replied
  cases entry.reply? out with
  | none => exact ⟨d, rfl, rfl⟩
  | some told => exact ⟨d.put told.1 (.answer told.2), rfl, rfl⟩

namespace Service

variable {engine : Engine} {ms more : List (Move σ)} {s₀ s t u : Service σ} {x : Sent} {p : Panic}

/-- What the handling of a command panics with, and why. -/
inductive CommandPanics (d : Dispatcher (Desk σ)) : Sent → Panic → Prop
  | request {call snapshot url contentType frame} :
      contentType = .websocket ∨ url.scheme = "ws" ∨ url.scheme = "wss" →
      CommandPanics d ⟨call, .request snapshot url contentType frame⟩ Dispatcher.wantsSocketUpgrade
  | socketUpgrade {call snapshot url frame} : ¬(url.scheme = "ws" ∨ url.scheme = "wss") →
      CommandPanics d ⟨call, .socketUpgrade snapshot url frame⟩ (Dispatcher.noSocketUpgrade url)
  | host {x : Sent} {op : Dispatcher.Op (Desk σ)} {c p h} : x.op? = some op → op.call? = some c →
      op.refusal? = none → c.look d.stage.host.host = .error p h → CommandPanics d x p
  | popup {call snapshot url frame p} :
      Sight.Panics snapshot url frame d.observers d.stage.host.host p →
      CommandPanics d ⟨call, .popup snapshot url frame⟩ p

/-- What the delivery of the next outcome panics with, and why. -/
inductive OutcomePanics (d : Dispatcher (Desk σ)) : Panic → Prop
  | report {f rest entry p} : d.queue.finished = f :: rest → (f.id, entry) ∈ d.pending →
      entry.ReportPanics f.output d.observers d.stage.host.host p → OutcomePanics d p

/-- The moves that end the loop, and how they leave it. -/
inductive Ends (s : Service σ) : Move σ → ServiceStatus → Prop
  | shutdown {call rest} : s.channel = ⟨call, .shutdown⟩ :: rest → Ends s .takeCommand .stopped
  | hungUp : s.channel = [] → s.arriving = [] → s.handles = 0 →
      (∀ call ∈ s.calls, s.isOpen call = false) → Ends s .hangUp .stopped
  | command {x rest p} : s.channel = x :: rest → CommandPanics s.dispatcher x p →
      Ends s .takeCommand (.panicked p)
  | outcome {p : Panic} : OutcomePanics s.dispatcher p → Ends s .takeOutcome (.panicked p)

theorem op_panics (engine : Engine) {op : Dispatcher.Op (Desk σ)} {d : Dispatcher (Desk σ)}
    (own : x.op? = some op) :
    (∃ e, Dispatcher.step engine op d = (.error p, e)) ↔ CommandPanics d x p := by
  have called {op : Dispatcher.Op (Desk σ)} {c : Call} (mine : op.call? = some c) :
      (∃ e, Dispatcher.step engine op d = (.error p, e)) ↔ op.refusal? = some p ∨
        op.refusal? = none ∧ ∃ h, c.look d.stage.host.host = .error p h := by
    rw [Dispatcher.step_call_panics engine mine, Call.hostPanics_desk]
  constructor
  · intro panicked
    cases mine : op.call? with
    | some c =>
        rcases (called mine).mp panicked with refused | ⟨fine, h, looked⟩
        · obtain ⟨call, command⟩ := x
          cases command with
          | request snapshot url contentType frame =>
              cases own
              rw [Dispatcher.refusal?_request] at refused
              split at refused
              · next misdirected =>
                  cases refused
                  exact .request misdirected
              · cases refused
          | socketUpgrade snapshot url frame =>
              cases own
              rw [Dispatcher.refusal?_socketUpgrade] at refused
              split at refused
              · cases refused
              · next misdirected =>
                  cases refused
                  exact .socketUpgrade misdirected
          | _ => cases own <;> cases refused
        · exact .host own mine fine looked
    | none =>
        obtain ⟨call, command⟩ := x
        obtain ⟨e, panicked⟩ := panicked
        cases command with
        | popup =>
            cases own
            exact .popup (Sight.panics_desk.mp ((Dispatcher.step_popup_panics engine).mp ⟨e, panicked⟩))
        | document => cases own; cases panicked
        | addObserver => cases own; cases panicked
        | removeObserver => cases own; cases panicked
        | _ => cases own <;> cases mine
  · rintro (misdirected | misdirected | ⟨own', mine, fine, looked⟩ | cause)
    · cases own
      exact (called rfl).mpr (.inl ((Dispatcher.refusal?_request ..).trans (if_pos misdirected)))
    · cases own
      exact (called rfl).mpr
        (.inl ((Dispatcher.refusal?_socketUpgrade ..).trans (if_neg misdirected)))
    · cases own.symm.trans own'
      exact (called mine).mpr (.inr ⟨fine, _, looked⟩)
    · cases own
      exact (Dispatcher.step_popup_panics engine).mpr (Sight.panics_desk.mpr cause)

theorem CommandPanics.op {d : Dispatcher (Desk σ)} (panics : CommandPanics d x p) :
    ∃ op : Dispatcher.Op (Desk σ), x.op? = some op := by
  cases panics with
  | host own => exact ⟨_, own⟩
  | _ => exact ⟨_, rfl⟩

theorem settle_panics_desk {entry : Pending} {out : Except JobError JobOutput}
    {d : Dispatcher (Desk σ)} : (∃ e, Dispatcher.settle entry out d = .error p e) ↔
      entry.ReportPanics out d.observers d.stage.host.host p := by
  obtain ⟨desk, replied, same⟩ := entry.replied_desk out d.stage.host
  rw [Dispatcher.settle_panics, replied]
  simp [Pending.reportPanics_desk, same]

theorem next_panics {d : Dispatcher (Desk σ)} (h : d.InStep engine)
    (there : d.queue.finished ≠ []) :
    (∃ e, Dispatcher.step engine .next d = (.error p, e)) ↔ OutcomePanics d p := by
  obtain ⟨f, rest, finished⟩ := List.exists_cons_of_ne_nil there
  have found : d.queue.tryNext =
      some (f, { d.queue with inFlight := d.queue.inFlight - 1, finished := rest }) :=
    WorkQueue.tryNext_eq_some.mpr ⟨finished, rfl⟩
  obtain ⟨-, entry, known, -⟩ := h.deliver found
  rw [Dispatcher.step_next_panics engine h.accounted found known, settle_panics_desk]
  constructor
  · exact .report finished (h.lookup.mp known)
  · rintro ⟨finished', member, panics⟩
    cases finished.symm.trans finished'
    cases (h.lookup.mpr member).symm.trans known
    exact panics

theorem operate_status (engine : Engine) (op : Dispatcher.Op (Desk σ)) (s : Service σ) :
    (s.operate engine op).status = match (Dispatcher.step engine op s.dispatcher).1 with
      | .ok _ => s.status
      | .error p => .panicked p :=
  congrArg status (operate_eq engine op s)

omit [Host σ] in
theorem answerFlushes_status (s : Service σ) : s.answerFlushes.status = s.status := by
  rw [answerFlushes_eq]
  split <;> rfl

omit [Host σ] in
theorem isRunning_iff : s.isRunning = true ↔ s.status = .running := by
  simp [isRunning]

theorem operate_panicked {op : Dispatcher.Op (Desk σ)} (running : s.status = .running) :
    (s.operate engine op).status = .panicked p ↔
      ∃ e, Dispatcher.step engine op s.dispatcher = (.error p, e) := by
  rw [operate_status]
  cases Dispatcher.step engine op s.dispatcher with
  | mk r e => cases r <;> simp [running]

theorem operate_ended {op : Dispatcher.Op (Desk σ)} (running : s.isRunning = true)
    (ended : (s.operate engine op).isRunning = false) :
    ∃ p, (s.operate engine op).status = .panicked p ∧
      ∃ e, Dispatcher.step engine op s.dispatcher = (.error p, e) := by
  have status := operate_status engine op s
  cases outcome : Dispatcher.step engine op s.dispatcher with
  | mk r e =>
      rw [outcome] at status
      cases r with
      | ok v =>
          have still : (s.operate engine op).isRunning = true :=
            isRunning_iff.mpr (status.trans (isRunning_iff.mp running))
          rw [still] at ended
          cases ended
      | error p => exact ⟨p, status, e, rfl⟩

theorem handle_status (engine : Engine) {op : Dispatcher.Op (Desk σ)} (own : x.op? = some op)
    (s : Service σ) : (s.handle x).status = (s.operate engine op).status := by
  obtain ⟨change, -, same⟩ := handle_operate engine own s
  rw [same]
  rfl

theorem Ends.status {m : Move σ} {status : ServiceStatus} (ends : Ends s m status)
    (h : s.dispatcher.InStep engine) (moved : s.step? engine m = some t) : t.status = status := by
  cases ends with
  | shutdown channel =>
      obtain ⟨_, _, channel', -, rfl⟩ := (step?_takeCommand engine).mp moved
      cases channel.symm.trans channel'
      rw [answerFlushes_status]
      rfl
  | hungUp =>
      obtain ⟨-, rfl⟩ := (step?_hangUp engine).mp moved
      rfl
  | @command x rest p channel panics =>
      obtain ⟨_, _, channel', running, rfl⟩ := (step?_takeCommand engine).mp moved
      cases channel.symm.trans channel'
      obtain ⟨op, own⟩ := panics.op
      rw [answerFlushes_status, handle_status engine own]
      exact (operate_panicked (s := { s with channel := rest }) (isRunning_iff.mp running)).mpr
        ((op_panics engine own).mpr panics)
  | outcome panics =>
      obtain ⟨running, there, rfl⟩ := (takeOutcome?_eq_some engine h.accounted).mp moved
      rw [answerFlushes_status]
      exact (operate_panicked (isRunning_iff.mp running)).mpr ((next_panics h there).mpr panics)

theorem Step.ends {m : Move σ} (step : Step engine s m t) (h : s.dispatcher.InStep engine)
    (running : s.isRunning = true) (ended : t.isRunning = false) :
    ∃ status, Ends s m status ∧ t.status = status := by
  have goesOn {α : Prop} (status : t.status = s.status) : α := by
    rw [isRunning, status] at ended
    exact absurd (running.symm.trans ended) (by decide)
  cases step with
  | send fresh some =>
      apply goesOn
      rw [Service.send]
      split <;> rfl
  | abandon => exact goesOn rfl
  | cloneHandle => exact goesOn rfl
  | dropHandle => exact goesOn rfl
  | @enqueue x rest =>
      apply goesOn
      rw [enter]
      split <;> rfl
  | @takeCommand x rest running' channel =>
      rw [answerFlushes_status] at goesOn ⊢
      rw [answerFlushes_isRunning] at ended
      cases own : (x.op? : Option (Dispatcher.Op (Desk σ))) with
      | some op =>
          rw [handle_status engine own]
          rw [isRunning, handle_status engine own] at ended
          obtain ⟨p, status, panicked⟩ :=
            operate_ended (s := { s with channel := rest }) running ended
          exact ⟨_, .command channel ((op_panics engine own).mp panicked), status⟩
      | none =>
          obtain ⟨call, command⟩ := x
          cases command with
          | flush => exact goesOn rfl
          | shutdown => exact ⟨_, .shutdown channel, rfl⟩
          | _ => cases own
  | takeOutcome running' there =>
      rw [answerFlushes_isRunning] at ended
      rw [answerFlushes_status]
      obtain ⟨p, status, panicked⟩ := operate_ended running ended
      exact ⟨_, .outcome ((next_panics h there).mp panicked), status⟩
  | hangUp running' channel arriving hungUp =>
      have alone : s.handles = 0 ∧ ∀ call ∈ s.calls, s.isOpen call = false := by
        simpa [Service.hungUp] using hungUp
      exact ⟨_, .hungUp channel arriving alone.1 alone.2, rfl⟩
  | @start id =>
      rw [operate_start] at goesOn
      exact goesOn rfl
  | @finish id =>
      rw [operate_finish] at goesOn
      exact goesOn rfl
  | changeHost => exact goesOn rfl

theorem Step.idle {m : Move σ} (step : Step engine s m t) (ended : s.isRunning = false) :
    takes? m s = none ∧ enters? m s = none := by
  have busy {α : Prop} (running : s.isRunning = true) : α := by
    rw [running] at ended
    cases ended
  cases step with
  | enqueue running => exact busy running
  | takeCommand running => exact busy running
  | _ => exact ⟨rfl, rfl⟩

/-- What there is to say of a loop that has ended, whatever clients and workers still do. -/
structure Over (engine : Engine) (s : Service σ) (more : List (Move σ)) (t : Service σ) : Prop where
  still : Still s t
  taken : Service.taken engine more s = []
  entered : Service.entered engine more s = []

theorem run_over (h : s.dispatcher.InStep engine) (ended : s.isRunning = false)
    (ran : run? engine more s = some t) : Over engine s more t := by
  refine run_induction (P := Over engine s) ⟨refl_of Still s, rfl, rfl⟩ ?_ more t ran
  intro ms u m v earlier past moved
  have there := run_inStep h earlier
  have ended' : u.isRunning = false := by
    rw [isRunning, past.still.status]
    exact ended
  have step := step?_cases engine there moved
  obtain ⟨takes, enters⟩ := step.idle ended'
  refine ⟨trans_of Still past.still (step.still ended'), ?_, ?_⟩
  · rw [taken_snoc earlier, takes]
    exact (List.append_nil _).trans past.taken
  · rw [entered_snoc earlier, enters]
    exact (List.append_nil _).trans past.entered

/-- What the loop makes of a job that panicked: its callback is told that nothing was decided, nobody
is told of anything else, and all others wait on, unless they waited for this job alone. -/
structure Contained (s : Service σ) (f : Finished JobOutput) (entry : Pending) (t : Service σ) :
    Prop where
  running : t.isRunning = true
  effects : t.dispatcher.stage.effects = s.dispatcher.stage.effects ++
    (entry.default?.map fun told => .callback told.1 told.2).toList
  told : ∀ call a, entry.default? = some (call, a) → t.callStatus call = .answered (.answer a)
  queue : t.dispatcher.queue = { s.dispatcher.queue with
    inFlight := s.dispatcher.inFlight - 1, finished := s.dispatcher.queue.finished.tail }
  pending : t.dispatcher.pending = s.dispatcher.pending.filter fun e => e.1 ≠ f.id
  observers : t.dispatcher.observers = s.dispatcher.observers
  channel : t.channel = s.channel
  arriving : t.arriving = s.arriving
  others : ∀ call ∈ s.held [], entry.callback? ≠ some call →
    call ∈ t.held [] ∧ t.callStatus call = .outstanding ∨
      call ∈ s.flushWaiters ∧ t.dispatcher.inFlight = 0 ∧ t.callStatus call = .answered .done

theorem operate_next_error (h : s.dispatcher.InStep engine) {f : Finished JobOutput}
    {queue : WorkQueue Job JobOutput} {e : JobError} {entry : Pending}
    (found : s.dispatcher.queue.tryNext = some (f, queue)) (failed : f.output = .error e)
    (kept : (f.id, entry) ∈ s.dispatcher.pending) :
    ∃ desk : Desk σ, s.operate engine .next =
      { s with dispatcher :=
        { s.dispatcher with
          queue
          pending := s.dispatcher.pending.filter fun e => e.1 ≠ f.id
          stage := s.dispatcher.stage.log (entry.replies f.output) desk } } := by
  obtain ⟨desk, replied, -⟩ := entry.replied_desk f.output s.dispatcher.stage.host
  have unreported : entry.report? f.output = none := failed ▸ entry.report?_error e
  have forgotten := Dispatcher.complete_of_some (d := { s.dispatcher with queue })
    (h.lookup.mpr kept)
  have settled := Dispatcher.settle_unreported (d := ({ s.dispatcher with queue }).forgetting f.id)
    replied unreported
  have next := operate_next engine h.accounted found (s := s)
  rw [onDispatcher_of_ok (s := { s with dispatcher := { s.dispatcher with queue } })
    (forgotten.trans settled)] at next
  exact ⟨desk, next.symm⟩

omit [Host σ] in
theorem held_forgetting {id : JobId} {entry : Pending} {stage : Stage (Desk σ)}
    {queue : WorkQueue Job JobOutput} (distinct : (s.dispatcher.pending.map (·.1)).Nodup)
    (kept : (id, entry) ∈ s.dispatcher.pending) {call : CallId} (held : call ∈ s.held [])
    (other : entry.callback? ≠ some call) :
    call ∈ ({ s with dispatcher := { s.dispatcher with
      queue, pending := s.dispatcher.pending.filter fun e => e.1 ≠ id, stage } } :
        Service σ).held [] := by
  simp only [Service.held, List.mem_append] at held ⊢
  refine held.imp_right (Or.imp_right (Or.imp_left ?_))
  intro waits
  obtain ⟨⟨key, entry'⟩, member, own⟩ := List.mem_filterMap.mp waits
  refine List.mem_filterMap.mpr ⟨(key, entry'), List.mem_filter.mpr ⟨member, ?_⟩, own⟩
  have differs : key ≠ id := by
    rintro rfl
    have same := ((Dispatcher.lookup_eq_some distinct).mpr member).symm.trans
      ((Dispatcher.lookup_eq_some distinct).mpr kept)
    cases same
    exact other own
  simpa using differs

omit [Host σ] in
theorem held_answerFlushes {w : Service σ} {call : CallId} (held : call ∈ w.held [])
    (other : call ∉ w.flushWaiters) : call ∈ w.answerFlushes.held [] := by
  rw [answerFlushes_eq]
  split
  · simp only [Service.held, List.mem_append] at held ⊢
    refine held.imp_right (Or.imp_right (Or.imp_right ?_))
    exact fun waits => absurd waits other
  · exact held

omit [Host σ] in
theorem awaits_on {id : JobId} {entry : Pending} {stage : Stage (Desk σ)}
    {queue : WorkQueue Job JobOutput} {call : CallId}
    (awaits : call ∈ s.flushWaiters → Awaits call t) (ledger : t.Ledger [])
    (goesOn : t.isRunning = true)
    (led : t = ({ s with dispatcher := { s.dispatcher with
      queue, pending := s.dispatcher.pending.filter fun e => e.1 ≠ id, stage } } :
        Service σ).answerFlushes)
    (distinct : (s.dispatcher.pending.map (·.1)).Nodup) (kept : (id, entry) ∈ s.dispatcher.pending)
    (held : call ∈ s.held []) (other : entry.callback? ≠ some call) :
    (call ∈ t.held [] ∧ t.callStatus call = .outstanding) ∨
      call ∈ s.flushWaiters ∧ t.dispatcher.inFlight = 0 ∧ t.callStatus call = .answered .done := by
  have waitsOn (held' : call ∈ t.held []) : call ∈ t.held [] ∧ t.callStatus call = .outstanding :=
    ⟨held', callStatus_eq_outstanding.mpr ⟨ledger.held_unanswered held', goesOn⟩⟩
  by_cases waits : call ∈ s.flushWaiters
  · rcases (awaits waits).running goesOn with ⟨on, -⟩ | ⟨done, idle⟩
    · exact .inl (waitsOn (by simp [Service.held, on]))
    · exact .inr ⟨waits, idle, done⟩
  · refine .inl (waitsOn ?_)
    rw [led]
    exact held_answerFlushes (held_forgetting distinct kept held other) waits

theorem contained (h : s₀.dispatcher.InStep engine) (ledger₀ : s₀.Ledger [])
    (origins₀ : Origins engine s₀ [] s₀) (nobody : s₀.flushWaiters = [])
    (ran : run? engine ms s₀ = some s) (running : s.isRunning = true) {f : Finished JobOutput}
    {rest : List (Finished JobOutput)} {e : JobError}
    (finished : s.dispatcher.queue.finished = f :: rest) (failed : f.output = .error e) :
    ∃ entry t, (f.id, entry) ∈ s.dispatcher.pending ∧ s.step? engine .takeOutcome = some t ∧
      Contained s f entry t := by
  have there := run_inStep h ran
  have ledger := run_ledger h ledger₀ ran
  have found : s.dispatcher.queue.tryNext = some (f, { s.dispatcher.queue with
      inFlight := s.dispatcher.queue.inFlight - 1, finished := rest }) :=
    WorkQueue.tryNext_eq_some.mpr ⟨finished, rfl⟩
  obtain ⟨-, entry, known, -⟩ := there.deliver found
  have kept := there.lookup.mp known
  obtain ⟨desk, next⟩ := operate_next_error there found failed kept
  have some : s.dispatcher.queue.finished ≠ [] := by simp [finished]
  have moved : s.step? engine .takeOutcome = Option.some (s.operate engine .next).answerFlushes :=
    (takeOutcome?_eq_some engine there.accounted).mpr ⟨running, some, rfl⟩
  have step := step?_cases engine there moved
  have led := run?_snoc ran moved
  generalize same : (s.operate engine .next).answerFlushes = t at moved step led
  have ledger' := run_ledger h ledger₀ led
  have origins := run_origins h origins₀ led
  obtain ⟨change, -, desk'⟩ := answerFlushes_desk (s.operate engine .next)
  have clients := (answerFlushes_leads engine (s.operate engine .next)).1
  have channel := answerFlushes_channel (s.operate engine .next)
  have status := answerFlushes_isRunning (s.operate engine .next)
  rw [same] at desk' clients channel status
  rw [next] at desk' clients channel status
  have goesOn : t.isRunning = true := status.trans running
  have effects : t.dispatcher.stage.effects = s.dispatcher.stage.effects ++
      (entry.default?.map fun told => Effect.callback told.1 told.2).toList := by
    rw [desk', ← entry.replies_error e, ← failed]
    exact Stage.effects_log _ desk s.dispatcher.stage
  refine ⟨entry, t, kept, moved, goesOn, effects, ?_, ?_, ?_, ?_, channel, clients.arriving, ?_⟩
  · intro call a told
    have invoked : .callback call a ∈ t.dispatcher.stage.effects := by
      rw [effects, told]
      exact List.mem_append_right _ (by simp)
    exact callStatus_eq_answered.mpr
      ((Desk.reply?_eq_some ledger'.replies_distinct).mpr (origins.told call a invoked))
  · rw [desk', finished]
    rfl
  · rw [desk']
    rfl
  · rw [desk']
    rfl
  · intro call held other
    exact awaits_on (step.awaits there ledger (run_drained h nobody ran)) ledger' goesOn
      (next ▸ same.symm) there.distinct kept held other

/-- A job that panics does so on a worker: it leaves an outcome like any other. -/
theorem finish_panicked (h : s.dispatcher.InStep engine) {id : JobId} {job : Job}
    (runs : (id, job) ∈ s.dispatcher.queue.running) (panics : job.run engine = .error p) :
    ∃ t, s.step? engine (.finish id) = some t ∧ Still s t ∧
      t.dispatcher.queue.finished =
        s.dispatcher.queue.finished ++ [⟨id, .error (.ofPanic p)⟩] := by
  obtain ⟨other, found⟩ := Option.isSome_iff_exists.mp
    (List.find?_isSome (p := fun j => decide (j.1 = id)) |>.mpr ⟨(id, job), runs, by simp⟩)
  rw [WorkQueue.eq_of_found h.accounted.running_distinct runs found] at found
  obtain ⟨queue, done, finished⟩ :
      ∃ queue, s.dispatcher.queue.finish? (Job.run engine) id = some queue ∧
        queue.finished = s.dispatcher.queue.finished ++ [⟨id, .error (.ofPanic p)⟩] :=
    ⟨_, WorkQueue.finish?_eq_some.mpr ⟨_, found, rfl⟩, by simp [panics, Except.mapError]⟩
  refine ⟨{ s with dispatcher := { s.dispatcher with queue } }, ?_, ?_, finished⟩
  · simp only [step?, finish?, done]
  · exact ⟨rfl, rfl, rfl, rfl, rfl, rfl, rfl⟩

omit [Host σ] in
/-- The commands that wait for room after a move, with the one that it lets in. -/
def inLine (m : Move σ) (s : Service σ) : List Sent :=
  match m with
  | .send call command => s.arriving ++ [⟨call, command⟩]
  | .abandon call => s.arriving.filter fun x => x.call ≠ call
  | _ => s.arriving

theorem Step.inLine {m : Move σ} (step : Step engine s m t) (running : s.isRunning = true) :
    (enters? m s).toList ++ t.arriving = Service.inLine m s := by
  cases step with
  | send fresh some =>
      rw [send_of_running _ _ running]
      rfl
  | @enqueue x rest running arriving room =>
      simp only [enters?, Service.inLine, enter_arriving, arriving]
      rfl
  | @takeCommand x rest running channel =>
      exact (command_clients engine x rest s).arriving
  | takeOutcome running there => exact (outcome_clients engine s).arriving
  | @start id => exact (operate_clients engine (.start id) s).arriving
  | @finish id => exact (operate_clients engine (.finish id) s).arriving
  | _ => rfl

/-- As long as the loop runs, a command that was sent has entered the channel or waits to, unless its
caller gave up before. -/
def Heard (engine : Engine) (s₀ : Service σ) (ms : List (Move σ)) (s : Service σ) : Prop :=
  s.isRunning = true → ∀ call command, .send call command ∈ ms →
    ⟨call, command⟩ ∈ entered engine ms s₀ ++ s.arriving ∨
      call ∈ s.abandoned ∧ ∀ x ∈ entered engine ms s₀ ++ s.arriving, x.call ≠ call

theorem Heard.step (heard : Heard engine s₀ ms s) (ran : run? engine ms s₀ = some s)
    (ordered : Ordered engine s₀ ms s) (origins : Origins engine s₀ ms s) {m : Move σ}
    (step : Step engine s m t) : Heard engine s₀ (ms ++ [m]) t := by
  intro running' call command sent
  have running : s.isRunning = true := by
    by_contra ended
    rw [(step.ended (by simpa using ended)).1] at running'
    cases running'
  have came := entered_snoc ran m
  obtain ⟨-, abandoned, -⟩ := step.clients
  rw [came, List.append_assoc, step.inLine running, abandoned]
  have old (before : .send call command ∈ ms) := heard running call command before
  have kept (silent : m.made? = none) : .send call command ∈ ms := by
    rcases List.mem_append.mp sent with before | now
    · exact before
    · cases List.mem_singleton.mp now
      cases silent
  cases step with
  | @send call' command' fresh some =>
      simp only [inLine, ← List.append_assoc]
      rcases List.mem_append.mp sent with before | now
      · rcases old before with there | ⟨gaveUp, gone⟩
        · exact .inl (List.mem_append_left _ there)
        · refine .inr ⟨gaveUp, fun x member => ?_⟩
          rcases List.mem_append.mp member with earlier | new
          · exact gone x earlier
          · cases List.mem_singleton.mp new
            exact fun (same : call' = call) => fresh (same ▸ origins.made call command before)
      · cases List.mem_singleton.mp now
        exact .inl (List.mem_append_right _ List.mem_cons_self)
  | @abandon call' open' member =>
      rcases old (kept rfl) with there | ⟨gaveUp, gone⟩
      · rcases List.mem_append.mp there with earlier | waits
        · exact .inl (List.mem_append_left _ earlier)
        · by_cases same : call = call'
          · subst same
            refine .inr ⟨List.mem_cons_self, fun x member => ?_⟩
            rcases List.mem_append.mp member with earlier | stays
            · have distinct := List.map_append ▸ ordered.distinct
              exact (List.nodup_append.mp distinct).2.2 _ (List.mem_map_of_mem earlier) _
                (List.mem_map_of_mem (f := fun y : Sent => y.call) waits)
            · exact of_decide_eq_true (List.mem_filter.mp stays).2
          · exact .inl (List.mem_append_right _ (List.mem_filter.mpr ⟨waits, by simpa using same⟩))
      · refine .inr ⟨List.mem_cons_of_mem _ gaveUp, fun x member => gone x ?_⟩
        exact ((List.Sublist.refl _).append List.filter_sublist).subset member
  | _ => exact old (kept rfl)

theorem run_heard (h : s₀.dispatcher.InStep engine) (ordered : Ordered engine s₀ [] s₀)
    (origins : Origins engine s₀ [] s₀) (ran : run? engine ms s₀ = some s) :
    Heard engine s₀ ms s :=
  run_induction (P := Heard engine s₀) (fun _ _ _ sent => (nomatch sent))
    (fun _ _ _ _ earlier kept moved =>
      have there := run_inStep h earlier
      kept.step earlier (run_ordered h ordered earlier) (run_origins h origins earlier)
        (step?_cases engine there moved)) ms s ran

/-- All that was sent has been handled, but for what was given up on the way into the channel. -/
structure Served (engine : Engine) (s₀ : Service σ) (ms : List (Move σ)) (s : Service σ) : Prop where
  taken : Service.taken engine ms s₀ = entered engine ms s₀
  sent : ∀ call command, .send call command ∈ ms → ⟨call, command⟩ ∈ Service.taken engine ms s₀ ∨
    call ∈ s.abandoned ∧ ∀ x ∈ entered engine ms s₀, x.call ≠ call

theorem Heard.served (heard : Heard engine s₀ ms s) (ordered : Ordered engine s₀ ms s)
    (running : s.isRunning = true) (channel : s.channel = []) (arriving : s.arriving = []) :
    Served engine s₀ ms s := by
  have same : taken engine ms s₀ = entered engine ms s₀ := by
    rw [ordered.fifo, channel, List.append_nil]
  refine ⟨same, fun call command sent => ?_⟩
  have there := heard running call command sent
  rw [arriving, List.append_nil] at there
  rwa [same]

/-- How the loop of a run came to its end, or could come to it, and all that an end means. -/
structure Endings (engine : Engine) (s₀ : Service σ) (ms : List (Move σ)) (s : Service σ) :
    Prop where
  cause : s.isRunning = false → ∃ first m rest u v, ms = first ++ m :: rest ∧
    run? engine first s₀ = some u ∧ u.isRunning = true ∧ u.step? engine m = some v ∧
      v.status = s.status ∧ Ends u m s.status ∧ (m = .hangUp → Served engine s₀ first u)
  next : s.isRunning = true → ∀ m t, s.step? engine m = some t →
    (t.isRunning = false ↔ ∃ status, Ends s m status) ∧ ∀ status, Ends s m status → t.status = status
  finished : ∀ id job p, (id, job) ∈ s.dispatcher.queue.running → job.run engine = .error p →
    ∃ t, s.step? engine (.finish id) = some t ∧ Still s t ∧ t.dispatcher.queue.finished =
      s.dispatcher.queue.finished ++ [⟨id, .error (.ofPanic p)⟩]
  contained : s.isRunning = true → ∀ f rest e, s.dispatcher.queue.finished = f :: rest →
    f.output = .error e → ∃ entry t, (f.id, entry) ∈ s.dispatcher.pending ∧
      s.step? engine .takeOutcome = some t ∧ Contained s f entry t
  afterwards : s.isRunning = false → ∀ more t, run? engine more s = some t → Over engine s more t ∧
    (∀ call ∈ s.held [], t.callStatus call = .closed) ∧
      ∀ call ∈ t.calls, (∀ r, s.callStatus call ≠ .answered r) → t.callStatus call = .closed

theorem Over.closed (past : Over engine s more t) (ended : s.isRunning = false) {call : CallId}
    (unanswered : s.desk.reply? call = none) : t.callStatus call = .closed := by
  rw [callStatus_eq_closed, Desk.reply?, past.still.replies, isRunning, past.still.status]
  exact ⟨unanswered, ended⟩

/-- The loop ends for one of the listed causes and for no other, and then for good. -/
theorem loop_endings {maxConcurrent commandBuffer : Nat} {host : σ}
    (spawned : spawn maxConcurrent commandBuffer host = .ok s₀) (ran : run? engine ms s₀ = some s) :
    Endings engine s₀ ms s := by
  obtain ⟨h, ledger₀, origins₀⟩ := spawn_sound spawned engine
  have ordered₀ := spawn_ordered spawned engine
  obtain ⟨begun, nobody⟩ : s₀.isRunning = true ∧ s₀.flushWaiters = [] := by
    obtain ⟨dispatcher, -, rfl⟩ := spawn_eq_ok spawned
    exact ⟨rfl, rfl⟩
  have there := run_inStep h ran
  have ledger := run_ledger h ledger₀ ran
  refine ⟨?_, ?_, ?_, ?_, ?_⟩
  · intro ended
    obtain ⟨first, m, rest, u, v, rfl, ran₁, moved, ran₂, before, after⟩ :=
      run_turning (Q := fun t => t.isRunning = false) ran (by simp [begun]) ended
    have now := run_inStep h ran₁
    have step := step?_cases engine now moved
    have running : u.isRunning = true := by simpa using before
    obtain ⟨status, ends, same⟩ := step.ends now running after
    have last := (run_over (step.inStep engine now) after ran₂).still.status
    rw [last, same]
    refine ⟨first, m, rest, u, v, rfl, ran₁, running, moved, same, ends, ?_⟩
    rintro rfl
    cases ends with
    | hungUp channel arriving =>
        exact (run_heard h ordered₀ origins₀ ran₁).served (run_ordered h ordered₀ ran₁) running
          channel arriving
  · intro running m t moved
    refine ⟨⟨fun ended => ?_, ?_⟩, fun status ends => ends.status there moved⟩
    · obtain ⟨status, ends, -⟩ := (step?_cases engine there moved).ends there running ended
      exact ⟨status, ends⟩
    · rintro ⟨status, ends⟩
      rw [isRunning, ends.status there moved]
      cases ends <;> rfl
  · intro id job p runs panics
    exact finish_panicked there runs panics
  · intro running f rest e finished failed
    exact contained h ledger₀ origins₀ nobody ran running finished failed
  · intro ended more t ran'
    have past := run_over there ended ran'
    refine ⟨past, fun call held => past.closed ended (ledger.held_unanswered held), ?_⟩
    intro call made unanswered
    apply past.closed ended
    cases replied : s.desk.reply? call with
    | none => rfl
    | some r => exact absurd (callStatus_eq_answered.mpr replied) (unanswered r)

/-- A shutdown closes a request in flight, a flush that waits for it and a call that is still in the
channel; the job of the request then ends for nobody. -/
theorem shutdown_closes :
    let live : LiveFrame := ⟨⟨1, 2⟩, ⟨"https://a.example/"⟩⟩
    let url : Url := ⟨"https://b.example/"⟩
    let engine : Engine := ⟨fun _ => .ok .ignored⟩
    let ms : List (Move Register) :=
      [.send 6 (.request [] url .image live.id), .enqueue, .takeCommand, .send 7 .flush, .enqueue,
        .takeCommand, .send 8 .shutdown, .enqueue, .send 9 (.rewrite [] url live.id), .enqueue,
        .takeCommand, .start 0, .finish 0]
    let s₀ : Service Register :=
      { dispatcher := { queue := { free := 1 }, stage := { host := { host := ⟨[live]⟩ } } }
        capacity := 2 }
    ∃ s, run? engine ms s₀ = some s ∧ Endings engine s₀ ms s ∧ s.status = .stopped ∧
      s.held [] = [9, 6, 7] ∧ s.callStatus 6 = .closed := by
  intro live url engine ms s₀
  have outcome : (run? engine ms s₀).map (fun s => (s.status, s.held [], s.callStatus 6)) =
      some (.stopped, [9, 6, 7], .closed) := by decide +kernel
  obtain ⟨s, ran, same⟩ := Option.map_eq_some_iff.mp outcome
  simp only [Prod.mk.injEq] at same
  have spawned : spawn 1 2 ⟨[live]⟩ = .ok s₀ := rfl
  exact ⟨s, ran, loop_endings spawned ran, same⟩

end Service

end FilterDispatch
