import FilterDispatch.Proofs.Dispatcher.Calls
import FilterDispatch.Proofs.Observer.Passes

/-!
Outcomes.  Whatever a job was posted for and whatever came of it, its delivery takes the entry away,
answers the callback if there is one, and then reports to the observers if something was decided
and the frame is still there.
-/

namespace FilterDispatch

namespace Pending

/-- The callback that is answered, and what it is told. -/
def reply? : Pending → Except JobError JobOutput → Option (CallId × Answer)
  | .resource r, .ok (.classified c) => some (r.callback, .result c.result)
  | .resource r, _ => some (r.callback, .result .noRule)
  | .document _ _, _ => none
  | .rewrite _ callback, .ok (.rewritten target) => some (callback, .rewrite target)
  | .rewrite _ callback, _ => some (callback, .rewrite none)

/-- The frame that has to be there still, and what is then reported. -/
def report? : Pending → Except JobError JobOutput → Option (FrameId × (LiveFrame → Notification))
  | .resource r, .ok (.classified c) =>
    c.subscription?.map fun subscription =>
      (r.frame, fun frame => .adMatched
        { url := r.url, result := c.result, ancestors := r.ancestors, contentType := r.contentType,
          frame, subscription })
  | .document url frame, .ok (.allowlisted subscription?) =>
    subscription?.map fun subscription =>
      (frame, fun frame => .pageAllowed { url, frame, subscription })
  | _, _ => none

/-- What the callback of an entry does when it is told. -/
def replied {σ : Type} [Host σ] (entry : Pending) (out : Except JobError JobOutput) :
    Control σ Unit :=
  match entry.reply? out with
  | none => return ()
  | some (call, a) => Host.receive call a

def replies (entry : Pending) (out : Except JobError JobOutput) : List Effect :=
  match entry.reply? out with
  | none => []
  | some (call, a) => [.callback call a]

/-- What is reported in a delivery that begins with the host in `h`: the callback has to return, and
the frame has to be there after that. -/
def due {σ : Type} [Host σ] (entry : Pending) (out : Except JobError JobOutput) (h : σ) :
    Option Notification :=
  match entry.replied out h with
  | .error _ _ => none
  | .ok _ after =>
    match entry.report? out with
    | none => none
    | some (frame, event) =>
      match Host.resolve frame after with
      | .ok (some live) _ => some (event live)
      | _ => none

theorem due_of_unreported {σ : Type} [Host σ] {entry : Pending} {out : Except JobError JobOutput}
    (none : entry.report? out = none) (h : σ) : entry.due out h = Option.none := by
  unfold due
  cases entry.replied out h with
  | error p after => rfl
  | ok _ after => simp only [none]

theorem replies_pass? (entry : Pending) (out : Except JobError JobOutput) :
    (entry.replies out).filterMap Effect.pass? = [] := by
  unfold replies
  cases entry.reply? out with
  | none => rfl
  | some told => rfl

theorem replies_answer? (entry : Pending) (out : Except JobError JobOutput) :
    (entry.replies out).filterMap Effect.answer? = (entry.reply? out).toList := by
  unfold replies
  cases entry.reply? out with
  | none => rfl
  | some told => rfl

theorem reply?_callback (entry : Pending) (out : Except JobError JobOutput) :
    (entry.reply? out).map (·.1) = entry.callback? := by
  cases entry with
  | document url frame => rfl
  | resource r =>
      cases out with
      | error e => rfl
      | ok output => cases output <;> rfl
  | rewrite url callback =>
      cases out with
      | error e => rfl
      | ok output => cases output <;> rfl

theorem reply?_own (engine : Engine) {entry : Pending} {q : Question} {call : CallId}
    (fits : entry.kind = q.job.kind) (own : entry.callback? = some call) :
    entry.reply? ((q.job.run engine).mapError JobError.ofPanic) = some (call, q.answer engine) := by
  cases q with
  | classify asked =>
      cases entry with
      | resource r =>
          cases own
          simp only [Question.job, Job.run, Job.evaluate, Evaluation.call, Question.answer]
          cases engine.classify asked with
          | ok c => rfl
          | error p => rfl
      | document url frame => cases own
      | rewrite url callback => cases fits
  | rewrite snapshot url ancestors =>
      cases entry with
      | resource r => cases fits
      | document url frame => cases own
      | rewrite target callback =>
          cases own
          simp only [Question.job, Job.run, Job.evaluate, Evaluation.map, Evaluation.mapCalls,
            Question.answer]
          cases (snapshot.firstRewriteTarget url ancestors).outcome with
          | ok found => rfl
          | error p => rfl

end Pending

/-- The host lets observers hear of it in turn, until one of them panics. -/
def Notification.tellAll {σ : Type} [Host σ] (n : Notification) : List ObserverId → Control σ Unit
  | [] => return ()
  | o :: rest => do
    Host.observe o n
    n.tellAll rest

theorem Notification.tellAll_ok {σ : Type} [Host σ]
    (quiet : ∀ o n (h : σ), ∃ k, Host.observe o n h = .ok () k) (n : Notification)
    (os : List ObserverId) (h : σ) : ∃ k, n.tellAll os h = .ok () k := by
  induction os generalizing h with
  | nil => exact ⟨h, rfl⟩
  | cons o rest ih =>
      obtain ⟨k, told⟩ := quiet o n h
      obtain ⟨l, rest⟩ := ih k
      exact ⟨l, (Control.bind_of_ok _ told).trans rest⟩

namespace Dispatcher

variable {σ : Type} [Host σ]

/-- The observers that a pass would tell now. -/
def audience (d : Dispatcher σ) : List ObserverId :=
  (d.observers.prune (Host.owned d.stage.host)).entries

/-- No observer can change the list in a pass of the dispatcher, so all are told in turn until one
of them panics. -/
theorem passOver_tell (n : Notification) (os : List ObserverId) (l : ObserverList) (s : Stage σ)
    (registered : ∀ o ∈ os, l.contains o = true) :
    ∃ told t, told <+: os ∧ t.effects = s.effects ++ told.map (.told · n) ∧
      (ObserverList.passOver (fun o => inPass (Stage.tell o n)) os (l, s) = .ok () (l, t) ∧
          told = os ∧ n.tellAll os s.host = .ok () t.host ∨
        ∃ p, ObserverList.passOver (fun o => inPass (Stage.tell o n)) os (l, s) =
          .error p (l, t) ∧ n.tellAll os s.host = .error p t.host) := by
  induction os generalizing s with
  | nil => exact ⟨[], s, List.nil_prefix, by simp, .inl ⟨rfl, rfl, rfl⟩⟩
  | cons o rest ih =>
      have here : l.contains o = true := registered o List.mem_cons_self
      have step := Stage.tell_apply o n s
      cases seen : Host.observe o n s.host with
      | ok _ h =>
          rw [seen] at step
          have onward : ObserverList.passOver (fun o => inPass (Stage.tell o n)) (o :: rest) (l, s) =
              ObserverList.passOver (fun o => inPass (Stage.tell o n)) rest
                (l, s.log [.told o n] h) := by
            simp only [ObserverList.passOver, Control.bind_apply, Control.get_apply, here, if_true,
              inPass, step]
          have onward' : n.tellAll (o :: rest) s.host = n.tellAll rest h :=
            Control.bind_of_ok _ seen
          rw [onward, onward']
          obtain ⟨told, t, first, effects, outcome⟩ := ih (s.log [.told o n] h)
            fun x member => registered x (List.mem_cons_of_mem _ member)
          refine ⟨o :: told, t, List.cons_prefix_cons.mpr ⟨rfl, first⟩, ?_, ?_⟩
          · simpa using effects
          · rcases outcome with ⟨all, rfl, heard⟩ | panicked
            · exact .inl ⟨all, rfl, heard⟩
            · exact .inr panicked
      | error p h =>
          rw [seen] at step
          have halted : ObserverList.passOver (fun o => inPass (Stage.tell o n)) (o :: rest) (l, s) =
              .error p (l, s.log [.told o n] h) := by
            simp only [ObserverList.passOver, Control.bind_apply, Control.get_apply, here, if_true,
              inPass, step]
          exact ⟨[o], s.log [.told o n] h, by simp, by simp,
            .inr ⟨p, halted, Control.bind_of_error _ seen⟩⟩

theorem announce_apply (n : Notification) (d : Dispatcher σ) :
    ∃ told t, told <+: d.audience ∧
      t.effects = d.stage.effects ++ .pass n :: told.map (.told · n) ∧
      (let e := { d with observers := d.observers.prune (Host.owned d.stage.host), stage := t }
      announce n d = .ok () e ∧ told = d.audience ∧
          n.tellAll d.audience d.stage.host = .ok () t.host ∨
        ∃ p, announce n d = .error p e ∧ n.tellAll d.audience d.stage.host = .error p t.host) := by
  let start := d.observers.prune (Host.owned d.stage.host)
  let noted := d.stage.log [.pass n] d.stage.host
  have registered : ∀ o ∈ start.entries, start.collect.contains o = true := fun o member => by
    simpa [ObserverList.contains, ObserverList.collect] using member
  obtain ⟨told, t, first, effects, outcome⟩ :=
    passOver_tell n start.entries start.collect noted registered
  have noting : onStage (Stage.note (.pass n)) d = .ok () { d with stage := noted } := rfl
  refine ⟨told, t, first, by simpa [noted] using effects, ?_⟩
  rcases outcome with ⟨all, same, heard⟩ | ⟨p, panicked, cause⟩
  · refine .inl ⟨Control.bind_eq_ok.mpr ⟨(), _, noting, ?_⟩, same, heard⟩
    have notified := ObserverList.notify_of_ok (fun s : Stage σ => Host.owned s.host) d.observers
      noted all
    simp only [notified]
    rfl
  · refine .inr ⟨p, Control.bind_eq_error.mpr (.inr ⟨(), _, noting, ?_⟩), cause⟩
    have notified := ObserverList.notify_of_error (fun s : Stage σ => Host.owned s.host) d.observers
      noted panicked
    simp only [notified]
    rfl

def reply (entry : Pending) (out : Except JobError JobOutput) : Control (Dispatcher σ) Unit :=
  match entry.reply? out with
  | none => return ()
  | some (call, a) => onStage (Stage.answer call a)

def report (entry : Pending) (out : Except JobError JobOutput) : Control (Dispatcher σ) Unit :=
  match entry.report? out with
  | none => return ()
  | some (frame, event) => do
    match ← onStage (Stage.resolve frame) with
    | none => return ()
    | some live => announce (event live)

/-- All outcomes of all jobs are settled in the same two steps. -/
theorem settle_eq (entry : Pending) (out : Except JobError JobOutput) :
    (settle entry out : Control (Dispatcher σ) Unit) = (do reply entry out; report entry out) := by
  -- only an output of the job's own kind has anything to report
  have abandoned (m : Control (Dispatcher σ) Unit) : m = (do m; return ()) := bind_pure_unit.symm
  cases entry with
  | resource r =>
      cases out with
      | error e => exact abandoned _
      | ok output =>
          cases output with
          | classified c =>
              simp only [settle, resourceClassified, reply, report, Pending.reply?,
                Pending.report?]
              cases c.subscription? with
              | none => rfl
              | some subscription => rfl
          | allowlisted subscription? => exact abandoned _
          | rewritten target => exact abandoned _
  | document url frame =>
      cases out with
      | error e => rfl
      | ok output =>
          cases output with
          | classified c => rfl
          | allowlisted subscription? =>
              cases subscription? with
              | none => rfl
              | some subscription => rfl
          | rewritten target => rfl
  | rewrite url callback =>
      cases out with
      | error e => exact abandoned _
      | ok output => cases output <;> exact abandoned _

theorem reply_apply (entry : Pending) (out : Except JobError JobOutput) (d : Dispatcher σ) :
    reply entry out d = match entry.replied out d.stage.host with
      | .ok _ h => .ok () (d.logged (entry.replies out) h)
      | .error p h => .error p (d.logged (entry.replies out) h) := by
  unfold reply Pending.replied Pending.replies
  cases entry.reply? out with
  | none => rfl
  | some told =>
      simp only [onStage_apply, Stage.answer_apply]
      cases Host.receive told.1 told.2 d.stage.host with
      | ok _ h => rfl
      | error p h => rfl

def reporting (entry : Pending) (out : Except JobError JobOutput) (frame : FrameId)
    (live : LiveFrame) (n : Notification) (told : List ObserverId) : List Effect :=
  entry.replies out ++ .resolved frame (some live) :: .pass n :: told.map (.told · n)

/-- The ways in which an entry can be settled, with all that each of them does. -/
inductive Settled (entry : Pending) (out : Except JobError JobOutput) (d : Dispatcher σ) :
    EStateM.Result Panic (Dispatcher σ) Unit → Prop
  | callbackPanics {p h} : entry.replied out d.stage.host = .error p h →
      Settled entry out d (.error p (d.logged (entry.replies out) h))
  | undecided {h} : entry.replied out d.stage.host = .ok () h → entry.report? out = none →
      Settled entry out d (.ok () (d.logged (entry.replies out) h))
  | hostPanics {h frame event p k} : entry.replied out d.stage.host = .ok () h →
      entry.report? out = some (frame, event) → Host.resolve frame h = .error p k →
      Settled entry out d (.error p (d.logged (entry.replies out) k))
  | frameGone {h frame event k} : entry.replied out d.stage.host = .ok () h →
      entry.report? out = some (frame, event) → Host.resolve frame h = .ok none k →
      Settled entry out d (.ok () (d.logged (entry.replies out ++ [.resolved frame none]) k))
  | reported {h frame event live k told t} : entry.replied out d.stage.host = .ok () h →
      entry.report? out = some (frame, event) → Host.resolve frame h = .ok (some live) k →
      told = (d.observers.prune (Host.owned k)).entries →
      t.effects = d.stage.effects ++ reporting entry out frame live (event live) told →
      Settled entry out d
        (.ok () { d with observers := d.observers.prune (Host.owned k), stage := t })
  | observerPanics {h frame event live k told t p} : entry.replied out d.stage.host = .ok () h →
      entry.report? out = some (frame, event) → Host.resolve frame h = .ok (some live) k →
      told <+: (d.observers.prune (Host.owned k)).entries →
      t.effects = d.stage.effects ++ reporting entry out frame live (event live) told →
      Settled entry out d
        (.error p { d with observers := d.observers.prune (Host.owned k), stage := t })

theorem onStage_resolve (frame : FrameId) (d : Dispatcher σ) :
    onStage (Stage.resolve frame) d = match Host.resolve frame d.stage.host with
      | .ok found h => .ok found (d.logged [.resolved frame found] h)
      | .error p h => .error p (d.logged [] h) := by
  rw [onStage_apply, Stage.resolve_apply]
  cases Host.resolve frame d.stage.host with
  | ok found h => rfl
  | error p h => rfl

theorem report_apply (entry : Pending) (out : Except JobError JobOutput) (d : Dispatcher σ) :
    report entry out d = match entry.report? out with
      | none => .ok () d
      | some (frame, event) =>
        match Host.resolve frame d.stage.host with
        | .error p k => .error p (d.logged [] k)
        | .ok none k => .ok () (d.logged [.resolved frame none] k)
        | .ok (some live) k => announce (event live) (d.logged [.resolved frame (some live)] k) := by
  unfold report
  cases entry.report? out with
  | none => rfl
  | some due =>
      obtain ⟨frame, event⟩ := due
      simp only [Control.bind_apply, onStage_resolve]
      cases Host.resolve frame d.stage.host with
      | error p k => rfl
      | ok found k => cases found <;> rfl

theorem settled (entry : Pending) (out : Except JobError JobOutput) (d : Dispatcher σ) :
    Settled entry out d (settle entry out d) := by
  rw [settle_eq]
  have first := reply_apply entry out d
  cases replied : entry.replied out d.stage.host with
  | error p h =>
      rw [replied] at first
      rw [Control.bind_of_error _ first]
      exact .callbackPanics replied
  | ok _ h =>
      rw [replied] at first
      rw [Control.bind_of_ok _ first, report_apply]
      cases reports : entry.report? out with
      | none => exact .undecided replied reports
      | some due =>
          obtain ⟨frame, event⟩ := due
          simp only [logged_host, logged_logged, List.append_nil]
          cases resolved : Host.resolve frame h with
          | error p k => exact .hostPanics replied reports resolved
          | ok found k =>
              cases found with
              | none => exact .frameGone replied reports resolved
              | some live =>
                  obtain ⟨told, t, first, effects, outcome⟩ := announce_apply (event live)
                    (d.logged (entry.replies out ++ [.resolved frame (some live)]) k)
                  have all : t.effects =
                      d.stage.effects ++ reporting entry out frame live (event live) told := by
                    rw [effects]
                    simp [logged, reporting]
                  rcases outcome with ⟨announced, same, -⟩ | ⟨p, panicked, -⟩
                  · simp only [announced]
                    exact .reported replied reports resolved same all
                  · simp only [panicked]
                    exact .observerPanics replied reports resolved first all

theorem settle_unreported {entry : Pending} {out : Except JobError JobOutput} {d : Dispatcher σ}
    {h : σ} (replied : entry.replied out d.stage.host = .ok () h)
    (unreported : entry.report? out = none) :
    settle entry out d = .ok () (d.logged (entry.replies out) h) := by
  have first := reply_apply entry out d
  rw [replied] at first
  rw [settle_eq, Control.bind_of_ok _ first, report_apply, unreported]

theorem reporting_answer? (entry : Pending) (out : Except JobError JobOutput) (frame : FrameId)
    (live : LiveFrame) (n : Notification) (told : List ObserverId) :
    (reporting entry out frame live n told).filterMap Effect.answer? =
      (entry.reply? out).toList := by
  have silent : (told.map (Effect.told · n)).filterMap Effect.answer? = [] := by
    simp [List.filterMap_eq_nil_iff, Effect.answer?]
  simp only [reporting, List.filterMap_append, List.filterMap_cons, entry.replies_answer? out,
    silent, Effect.answer?, List.append_nil]

theorem reporting_pass? (entry : Pending) (out : Except JobError JobOutput) (frame : FrameId)
    (live : LiveFrame) (n : Notification) (told : List ObserverId) :
    (reporting entry out frame live n told).filterMap Effect.pass? = [n] := by
  have one : (told.map (Effect.told · n)).filterMap Effect.pass? = [] := by
    simp [List.filterMap_eq_nil_iff, Effect.pass?]
  simp only [reporting, List.filterMap_append, List.filterMap_cons, entry.replies_pass? out,
    one, Effect.pass?, List.nil_append]

/-- In whatever way it goes, the callback is answered once, what is due is reported once, and jobs
stay as they are. -/
theorem settle_summary (entry : Pending) (out : Except JobError JobOutput) (d : Dispatcher σ) :
    ∃ new, (Control.final (settle entry out) d).stage.effects = d.stage.effects ++ new ∧
      new.filterMap Effect.answer? = (entry.reply? out).toList ∧
      new.filterMap Effect.pass? = (entry.due out d.stage.host).toList ∧
      (Control.final (settle entry out) d).queue = d.queue ∧
      (Control.final (settle entry out) d).pending = d.pending := by
  have ways := settled entry out d
  unfold Control.final
  generalize settle entry out d = outcome at ways ⊢
  cases ways with
  | callbackPanics replied =>
      refine ⟨entry.replies out, by simp [logged], entry.replies_answer? out, ?_, rfl, rfl⟩
      simp [entry.replies_pass? out, Pending.due, replied]
  | undecided replied reports =>
      refine ⟨entry.replies out, by simp [logged], entry.replies_answer? out, ?_, rfl, rfl⟩
      simp [entry.replies_pass? out, Pending.due, replied, reports]
  | hostPanics replied reports resolved =>
      refine ⟨entry.replies out, by simp [logged], entry.replies_answer? out, ?_, rfl, rfl⟩
      simp [entry.replies_pass? out, Pending.due, replied, reports, resolved]
  | @frameGone h frame event k replied reports resolved =>
      refine ⟨entry.replies out ++ [.resolved frame none], by simp [logged], ?_, ?_, rfl, rfl⟩
      · simp [entry.replies_answer? out, Effect.answer?]
      · simp [entry.replies_pass? out, Effect.pass?, Pending.due, replied, reports, resolved]
  | @reported h frame event live k told t replied reports resolved all effects =>
      refine ⟨reporting entry out frame live (event live) told, by simp [effects, reporting],
        reporting_answer? .., ?_, rfl, rfl⟩
      simp [reporting_pass?, Pending.due, replied, reports, resolved]
  | @observerPanics h frame event live k told t p replied reports resolved first effects =>
      refine ⟨reporting entry out frame live (event live) told, by simp [effects, reporting],
        reporting_answer? .., ?_, rfl, rfl⟩
      simp [reporting_pass?, Pending.due, replied, reports, resolved]

/-- The dispatcher without what was kept for a job. -/
def forgetting (id : JobId) (d : Dispatcher σ) : Dispatcher σ :=
  { d with pending := d.pending.filter fun e => e.1 ≠ id }

omit [Host σ] in
theorem forgetting_of_none {id : JobId} {d : Dispatcher σ} (unknown : d.pending.lookup id = none) :
    d.forgetting id = d := by
  have others : d.pending.filter (fun e => e.1 ≠ id) = d.pending :=
    List.filter_eq_self.mpr fun e member => by
      have unlike := List.lookup_eq_none_iff.mp unknown e member
      exact decide_eq_true fun same => bne_iff_ne.mp unlike same.symm
  rw [forgetting, others]

theorem complete_of_none {f : Finished JobOutput} {d : Dispatcher σ}
    (unknown : d.pending.lookup f.id = none) : complete f d = .ok () d := by
  simp only [complete, takePending, Control.bind_apply, Control.get_apply, Control.modify_apply,
    Control.pure_apply, unknown]
  exact congrArg (EStateM.Result.ok ()) (forgetting_of_none unknown)

theorem complete_of_some {f : Finished JobOutput} {d : Dispatcher σ} {entry : Pending}
    (known : d.pending.lookup f.id = some entry) :
    complete f d = settle entry f.output (d.forgetting f.id) := by
  simp only [complete, takePending, Control.bind_apply, Control.get_apply, Control.modify_apply,
    Control.pure_apply, known]
  rfl

theorem complete_summary (f : Finished JobOutput) (d : Dispatcher σ) :
    ∃ new, (Control.final (complete f) d).stage.effects = d.stage.effects ++ new ∧
      new.filterMap Effect.answer? =
        ((d.pending.lookup f.id).bind fun entry => entry.reply? f.output).toList ∧
      new.filterMap Effect.pass? =
        ((d.pending.lookup f.id).bind fun entry => entry.due f.output d.stage.host).toList ∧
      (Control.final (complete f) d).queue = d.queue ∧
      (Control.final (complete f) d).pending = d.pending.filter fun e => e.1 ≠ f.id := by
  cases known : d.pending.lookup f.id with
  | none =>
      rw [Control.final_ok (complete_of_none known)]
      have same := congrArg Dispatcher.pending (forgetting_of_none known)
      exact ⟨[], (List.append_nil _).symm, rfl, rfl, rfl, same.symm⟩
  | some entry =>
      rw [Control.final_congr (complete_of_some known)]
      exact settle_summary entry f.output (d.forgetting f.id)

theorem complete_queue (f : Finished JobOutput) (d : Dispatcher σ) :
    (Control.final (complete f) d).queue = d.queue := by
  obtain ⟨-, -, -, -, same, -⟩ := complete_summary f d
  exact same

theorem complete_pending (f : Finished JobOutput) (d : Dispatcher σ) :
    (Control.final (complete f) d).pending = d.pending.filter fun e => e.1 ≠ f.id := by
  obtain ⟨-, -, -, -, -, same⟩ := complete_summary f d
  exact same

end Dispatcher

end FilterDispatch
