import FilterDispatch.Proofs.Dispatcher.Panics

/-!
Causes of panics.  Apart from what a call itself asserts, the control sequence panics exactly if the
host does, or the engine in line, or one of the observers that are told.
-/

namespace FilterDispatch

variable {σ : Type} [Host σ]

/-- What a popup runs into: a question to the host, the engine, or an observer of its pass. -/
inductive Sight.Panics (snapshot : Snapshot) (url : Url) (frame : FrameId) (observers : ObserverList)
    (h : σ) (p : Panic) : Prop
  | asked {k} : look frame h = .error p k → Panics snapshot url frame observers h p
  | ruled {s k l} : look frame h = .ok (some s) k →
      Host.classifyInline (s.popupCall snapshot url) k = .error p l →
      Panics snapshot url frame observers h p
  | told {s k c l n m} : look frame h = .ok (some s) k →
      Host.classifyInline (s.popupCall snapshot url) k = .ok c l → s.popupMatched? url c = some n →
      n.tellAll (observers.prune (Host.owned l)).entries l = .error p m →
      Panics snapshot url frame observers h p

/-- What a report runs into: the question for its frame, or an observer of its pass. -/
inductive Pending.ReportPanics (entry : Pending) (out : Except JobError JobOutput)
    (observers : ObserverList) (h : σ) (p : Panic) : Prop
  | asked {frame event k} : entry.report? out = some (frame, event) →
      Host.resolve frame h = .error p k → ReportPanics entry out observers h p
  | told {frame event live k l} : entry.report? out = some (frame, event) →
      Host.resolve frame h = .ok (some live) k →
      (event live).tellAll (observers.prune (Host.owned k)).entries k = .error p l →
      ReportPanics entry out observers h p

namespace Dispatcher

variable {d : Dispatcher σ} {p : Panic}

theorem place_panics {c : Call} :
    (∃ e, place c d = .error p e) ↔ c.HostPanics d.stage.host p := by
  have ways := called_cases c d
  constructor
  · rintro ⟨e, panicked⟩
    rw [panicked] at ways
    cases ways with
    | hostPanics looked first => exact .asked looked
    | callbackPanics looked received => exact .told looked received
  · generalize place c d = outcome at ways
    rintro (looked | ⟨looked, received⟩)
    · cases ways <;> simp_all
    · cases ways <;> simp_all

theorem announce_panics {n : Notification} :
    (∃ e, announce n d = .error p e) ↔ ∃ h, n.tellAll d.audience d.stage.host = .error p h := by
  obtain ⟨told, t, -, -, ⟨announced, -, heard⟩ | ⟨q, panicked, cause⟩⟩ := announce_apply n d
  · simp [announced, heard]
  · simp [panicked, cause]

theorem rule_panics {snapshot : Snapshot} {url : Url} {s : Sight} :
    (∃ e, rule snapshot url s d = .error p e) ↔
      (∃ l, Host.classifyInline (s.popupCall snapshot url) d.stage.host = .error p l) ∨
        ∃ c l n m, Host.classifyInline (s.popupCall snapshot url) d.stage.host = .ok c l ∧
          s.popupMatched? url c = some n ∧
          n.tellAll (d.observers.prune (Host.owned l)).entries l = .error p m := by
  rw [rule_apply]
  cases Host.classifyInline (s.popupCall snapshot url) d.stage.host with
  | error q k => simp
  | ok c k =>
      cases reports : s.popupMatched? url c with
      | none => simp [reports, Control.pure_apply]
      | some n =>
          have cause := announce_panics (p := p) (n := n)
            (d := d.logged [.engineCall (s.popupCall snapshot url)] k)
          simp only [reports, Control.map_eq_error, cause]
          simp [audience, logged, reports]

theorem popup_panics {snapshot : Snapshot} {url : Url} {frame : FrameId} :
    (∃ e, popup snapshot url frame d = .error p e) ↔
      Sight.Panics snapshot url frame d.observers d.stage.host p := by
  rw [popup_eq]
  rcases Sight.see_cases frame d.stage with
    ⟨found, h, looked, seen⟩ | ⟨q, h, found, new, looked, seen, first⟩
  · have shown : onStage (Sight.see frame) d = .ok found (d.logged (Sight.inquiries frame found) h) :=
      onStage_eq_ok.mpr ⟨_, seen, rfl⟩
    rw [Control.bind_of_ok _ shown]
    cases found with
    | none =>
        refine ⟨fun ⟨e, panicked⟩ => (nomatch panicked), ?_⟩
        rintro (looked' | ⟨looked', -⟩ | ⟨looked', -⟩)
        all_goals
          rw [looked] at looked'
          cases looked'
    | some s =>
        dsimp only
        rw [rule_panics]
        constructor
        · rintro (⟨l, ruled⟩ | ⟨c, l, n, m, ruled, reports, cause⟩)
          · exact .ruled looked ruled
          · exact .told looked ruled reports cause
        · rintro (looked' | ⟨looked', ruled⟩ | ⟨looked', ruled, reports, cause⟩)
          all_goals
            rw [looked] at looked'
            cases looked'
          · exact .inl ⟨_, ruled⟩
          · exact .inr ⟨_, _, _, _, ruled, reports, cause⟩
  · have failed : onStage (Sight.see frame) d = .error q (d.logged new h) :=
      onStage_eq_error.mpr ⟨_, seen, rfl⟩
    rw [Control.bind_of_error _ failed]
    constructor
    · rintro ⟨e, panicked⟩
      cases panicked
      exact .asked looked
    · rintro (looked' | ⟨looked', -⟩ | ⟨looked', -⟩)
      all_goals
        rw [looked] at looked'
        cases looked'
      exact ⟨_, rfl⟩

theorem report_panics {entry : Pending} {out : Except JobError JobOutput} :
    (∃ e, report entry out d = .error p e) ↔
      entry.ReportPanics out d.observers d.stage.host p := by
  rw [report_apply]
  constructor
  · rintro ⟨e, panicked⟩
    cases reports : entry.report? out with
    | none =>
        rw [reports] at panicked
        cases panicked
    | some due =>
        obtain ⟨frame, event⟩ := due
        rw [reports] at panicked
        dsimp only at panicked
        cases resolved : Host.resolve frame d.stage.host with
        | error q k =>
            rw [resolved] at panicked
            cases panicked
            exact .asked reports resolved
        | ok found k =>
            rw [resolved] at panicked
            cases found with
            | none => cases panicked
            | some live =>
                obtain ⟨h, cause⟩ := announce_panics.mp ⟨e, panicked⟩
                exact .told reports resolved cause
  · rintro (⟨reports, resolved⟩ | ⟨reports, resolved, cause⟩)
    · simp only [reports, resolved]
      exact ⟨_, rfl⟩
    · simp only [reports, resolved]
      exact announce_panics.mpr ⟨_, cause⟩

theorem settle_panics {entry : Pending} {out : Except JobError JobOutput} :
    (∃ e, settle entry out d = .error p e) ↔
      (∃ h, entry.replied out d.stage.host = .error p h) ∨
        ∃ h, entry.replied out d.stage.host = .ok () h ∧
          entry.ReportPanics out d.observers h p := by
  rw [settle_eq]
  have first := reply_apply entry out d
  cases replied : entry.replied out d.stage.host with
  | error q h =>
      rw [replied] at first
      rw [Control.bind_of_error _ first]
      simp
  | ok _ h =>
      rw [replied] at first
      rw [Control.bind_of_ok _ first, report_panics]
      simp [logged]

variable (engine : Engine)

theorem step_call_panics {op : Op σ} {c : Call} (mine : op.call? = some c) :
    (∃ e, step engine op d = (.error p, e)) ↔
      op.refusal? = some p ∨ op.refusal? = none ∧ c.HostPanics d.stage.host p := by
  simp only [step_eq_error, perform_call engine mine, ← place_panics]
  cases op.refusal? with
  | some q => simp
  | none =>
      simp only [Control.map_eq_error (f := fun _ => Response.done)]
      simp

theorem step_popup_panics {snapshot : Snapshot} {url : Url} {frame : FrameId} :
    (∃ e, step engine (.popup snapshot url frame) d = (.error p, e)) ↔
      Sight.Panics snapshot url frame d.observers d.stage.host p := by
  rw [← popup_panics]
  simp only [step_eq_error, perform, Control.map_eq_error]

theorem step_next_panics (accounted : d.queue.Accounted) {f : Finished JobOutput}
    {queue : WorkQueue Job JobOutput} {entry : Pending}
    (found : d.queue.tryNext = some (f, queue)) (known : d.pending.lookup f.id = some entry) :
    (∃ e, step engine .next d = (.error p, e)) ↔
      ∃ e, settle entry f.output (({ d with queue }).forgetting f.id) = .error p e := by
  have completed : complete f { d with queue } = _ := complete_of_some known
  simp only [step_eq_error, perform, Control.map_eq_error, processNext_of_some accounted found]
  rw [completed]

end Dispatcher

end FilterDispatch
