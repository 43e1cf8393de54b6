import FilterDispatch.Proofs.Dispatcher.Causes
import FilterDispatch.Proofs.Dispatcher.Closure
import FilterDispatch.Proofs.Dispatcher.Completions
import FilterDispatch.Proofs.Dispatcher.Pages
import FilterDispatch.Proofs.Dispatcher.Registrations
import FilterDispatch.Proofs.Stats.Sessions
import FilterDispatch.Scenario.World

/-!
Collecting.  One observer of a dispatcher keeps statistics.  They are started outside of all passes, and
from then on they count every match that a pass reports, and nothing besides.
-/

namespace FilterDispatch

variable {σ : Type} [Host σ] {stats : σ → SessionStats} {o : ObserverId} {h k : σ}

/-- Collecting was started meanwhile, or nothing happened to the statistics. -/
def Starts (stats : σ → SessionStats) (h k : σ) : Prop :=
  stats k = stats h ∨ stats k = (stats h).start

def Lasts (stats : σ → SessionStats) (h k : σ) : Prop :=
  (stats h).collecting = true → (stats k).collecting = true

omit [Host σ] in
instance : IsPreorder σ (Starts stats) where
  refl _ := .inl rfl
  trans h k l := by
    rintro (same | began) (same' | began')
    · exact .inl (same'.trans same)
    · exact .inr (by rw [began', same])
    · exact .inr (by rw [same', began])
    · exact .inr (by rw [began', began, SessionStats.start_start])

omit [Host σ] in
instance : IsPreorder σ (Lasts stats) where
  refl _ := id
  trans _ _ _ first later := later ∘ first

omit [Host σ] in
theorem Starts.lasts (starts : Starts stats h k) : Lasts stats h k := by
  intro collecting
  rcases starts with same | began
  · rwa [same]
  · rw [began, SessionStats.start_collecting]

omit [Host σ] in
theorem Starts.since {ns : List Notification} (starts : Starts stats h k)
    (since : (stats h).Since ns) : (stats k).Since ns := by
  rcases starts with same | began
  · rwa [same]
  · rw [began]
    exact since.start

omit [Host σ] in
theorem SessionStats.Since.report {s : SessionStats} {ads : List AdMatched}
    (since : s.Since (ads.map .adMatched)) (n : Notification) :
    (s.observe n).Since
      ((ads ++ if s.collecting then n.adMatched?.toList else []).map .adMatched) := by
  cases n with
  | adMatched event =>
      have next := since.observe (.adMatched event)
      cases collecting : s.collecting with
      | false => simpa [collecting] using next
      | true => simpa [collecting, Notification.adMatched?] using next
  | _ => simpa [Notification.adMatched?, SessionStats.observe] using since

/-- One observer keeps statistics in the host.  It observes what it is told; the others leave the
statistics alone; and whatever else the host does, at most it starts them. -/
structure Collects (stats : σ → SessionStats) (o : ObserverId) : Prop where
  observes : ∀ n h, stats (Control.final (Host.observe o n) h) = (stats h).observe n
  apart : ∀ other, other ≠ o → ∀ n h, stats (Control.final (Host.observe other n) h) = stats h
  asked : Host.Asked (Starts stats)
  receive : ∀ call a, Control.Along (Starts stats) (Host.receive call a)

namespace Collects

variable {n : Notification} {os : List ObserverId}

theorem unmatched (collects : Collects stats o) (other : ObserverId) (ignored : n.adMatched? = none) :
    Control.Along (Starts stats) (Host.observe other n) := by
  intro h
  left
  by_cases own : other = o
  · subst own
    rw [collects.observes]
    cases n with
    | adMatched event => cases ignored
    | _ => rfl
  · exact collects.apart other own n h

theorem tellAll (collects : Collects stats o) (distinct : os.Nodup)
    (told : n.tellAll os h = .ok () k) :
    stats k = if o ∈ os then (stats h).observe n else stats h := by
  induction os generalizing h with
  | nil =>
      cases told
      rfl
  | cons other rest ih =>
      obtain ⟨fresh, distinct⟩ := List.nodup_cons.mp distinct
      obtain ⟨_, m, first, later⟩ := Control.bind_eq_ok.mp told
      have heard := Control.final_ok first
      rw [ih distinct later, ← heard]
      by_cases own : other = o
      · subst own
        rw [if_neg fresh, if_pos List.mem_cons_self, collects.observes]
      · rw [collects.apart other own]
        simp [Ne.symm own]

theorem replied (collects : Collects stats o) (entry : Pending) (out : Except JobError JobOutput) :
    Control.Along (Starts stats) (entry.replied out) := by
  unfold Pending.replied
  cases entry.reply? out with
  | none => exact .pure _
  | some told => exact collects.receive told.1 told.2

theorem lasting (collects : Collects stats o) : Stage.Kept (Stage.OnHost (Lasts stats)) := by
  have lasts : ∀ h k, Starts stats h k → Lasts stats h k := fun _ _ starts => starts.lasts
  refine ⟨(collects.asked.mono lasts).onHost,
    fun call a => Stage.answer_along ((collects.receive call a).mono lasts),
    fun n => Stage.note_along _, fun other n => Stage.tell_along fun h collecting => ?_⟩
  by_cases own : other = o
  · subst own
    rwa [collects.observes, SessionStats.observe_collecting]
  · rwa [collects.apart other own]

end Collects

namespace Pending

variable {entry : Pending} {out : Except JobError JobOutput}

theorem passStart?_eq_some : entry.passStart? out h = some k ↔
    ∃ after frame event live, entry.replied out h = .ok () after ∧
      entry.report? out = some (frame, event) ∧ Host.resolve frame after = .ok (some live) k := by
  unfold passStart?
  cases entry.replied out h with
  | error p after => simp
  | ok _ after =>
      cases entry.report? out with
      | none => simp
      | some due =>
          obtain ⟨frame, event⟩ := due
          cases resolved : Host.resolve frame after with
          | error p l => simp [resolved]
          | ok shown l => cases shown <;> simp [resolved]

theorem due_eq_none (unpassed : entry.passStart? out h = none) : entry.due out h = none := by
  cases due : entry.due out h with
  | none => rfl
  | some n =>
      obtain ⟨after, frame, event, live, k, replied, reports, resolved, -⟩ := due_eq_some.mp due
      rw [passStart?_eq_some.mpr ⟨after, frame, event, live, replied, reports, resolved⟩] at unpassed
      cases unpassed

theorem due_isMatch {event : AdMatched} (due : entry.due out h = some (.adMatched event)) :
    event.result.isMatch = true := by
  obtain ⟨after, frame, told, live, k, -, reports, -, same⟩ := due_eq_some.mp due
  rcases Dispatcher.report?_cases reports with
    ⟨r, c, subscription, rfl, rfl, decided, rfl, rfl⟩ | ⟨url, subscription, rfl, rfl, rfl⟩
  · cases same
    cases c with
    | ignored => cases decided
    | _ => rfl
  · cases same

end Pending

namespace Dispatcher

variable {engine : Engine} {op : Op σ} {d : Dispatcher σ} {x : Delivery σ}

/-- The match that is reported while statistics are collected. -/
def Delivery.collected (stats : σ → SessionStats) (x : Delivery σ) : List AdMatched :=
  match x.passStart? with
  | some k => if (stats k).collecting then adsMatched x.effects else []
  | none => []

/-- If there is a pass, no observer panics in it, and the one that keeps the statistics is registered
and alive at its start, provided that they are collected then. -/
structure Delivery.Attended (stats : σ → SessionStats) (o : ObserverId) (x : Delivery σ) : Prop where
  unpanicked : ∀ k, x.passStart? = some k → complete x.outcome x.before = .ok () x.after
  present : ∀ k, x.passStart? = some k → (stats k).collecting = true →
    o ∈ x.before.observers.entries ∧ Host.owned k o = true

theorem Delivery.adsMatched_eq (led : x.after = Control.final (complete x.outcome) x.before) :
    adsMatched x.effects = (((x.before.pending.lookup x.outcome.id).bind fun entry =>
      entry.due x.outcome.output x.before.stage.host).bind Notification.adMatched?).toList := by
  obtain ⟨new, grown, -, passes, -⟩ := complete_summary x.outcome x.before
  rw [← led] at grown
  rw [Delivery.effects, effectsSince_eq grown, adsMatched, reportsOf, passes]
  generalize (x.before.pending.lookup x.outcome.id).bind _ = due
  rw [Option.toList_bind, List.filterMap_eq_flatMap_toList]
  rfl

theorem Delivery.adsMatched_of_unpassed
    (led : x.after = Control.final (complete x.outcome) x.before) (unpassed : x.passStart? = none) :
    adsMatched x.effects = [] := by
  rw [Delivery.adsMatched_eq led]
  cases known : x.before.pending.lookup x.outcome.id with
  | none => rfl
  | some entry =>
      have none : entry.passStart? x.outcome.output x.before.stage.host = none := by
        simpa [Delivery.passStart?, Dispatcher.passStart?, known] using unpassed
      simp [Pending.due_eq_none none]

theorem Delivery.isMatch_of_adsMatched
    (led : x.after = Control.final (complete x.outcome) x.before) :
    ∀ event ∈ adsMatched x.effects, event.result.isMatch = true := by
  intro event member
  rw [Delivery.adsMatched_eq led, Option.mem_toList, Option.bind_eq_some_iff] at member
  obtain ⟨n, reported, same⟩ := member
  obtain ⟨entry, -, due⟩ := Option.bind_eq_some_iff.mp reported
  cases n with
  | adMatched other =>
      cases same
      exact Pending.due_isMatch due
  | _ => cases same

theorem stride_adsMatched (engine : Engine) (op : Op σ) (accounted : d.queue.Accounted) :
    adsMatched (stride engine op d).effects =
      (stride engine op d).completions.flatMap fun x => adsMatched x.effects := by
  cases own : op.injects with
  | false =>
      rw [Stride.completions_of_own own]
      exact (course engine accounted own).adsMatched
  | true =>
      cases op with
      | complete f => exact (List.flatMap_singleton _ _).symm
      | _ => cases own

theorem Delivery.unpanicked (quiet : ∀ o n (h : σ), ∃ k, Host.observe o n h = .ok () k)
    (led : x.after = Control.final (complete x.outcome) x.before)
    (passes : x.passStart? = some k) : complete x.outcome x.before = .ok () x.after := by
  obtain ⟨entry, known, start⟩ := Option.bind_eq_some_iff.mp passes
  obtain ⟨after, frame, event, live, replied, reports, resolved⟩ :=
    Pending.passStart?_eq_some.mp start
  cases completed : complete x.outcome x.before with
  | ok _ e => rw [led, Control.final_ok completed]
  | error p e =>
      rw [complete_of_some known] at completed
      rcases settle_panics.mp ⟨e, completed⟩ with ⟨h, failed⟩ | ⟨h, returned, panics⟩
      · cases replied.symm.trans failed
      · cases replied.symm.trans returned
        cases panics with
        | asked reports' failed =>
            cases reports.symm.trans reports'
            cases resolved.symm.trans failed
        | told reports' shown cause =>
            obtain ⟨l, heard⟩ := Notification.tellAll_ok quiet _ _ _
            cases heard.symm.trans cause

/-- The statistics are started by a change of the host at most. -/
def Op.Starting (stats : σ → SessionStats) (op : Op σ) : Prop :=
  ∀ change, op = .changeHost change → ∀ h, Starts stats h (change h)

end Dispatcher

namespace Collects

open Dispatcher

variable {engine : Engine} {op : Op σ} {ops : List (Op σ)} {d e : Dispatcher σ}
  {xs : List (Delivery σ)} {x : Delivery σ} {ads : List AdMatched} {entry : Pending}
  {out : Except JobError JobOutput}

theorem settle_unpassed (collects : Collects stats o)
    (unpassed : entry.passStart? out d.stage.host = none) :
    Starts stats d.stage.host (Control.final (settle entry out) d).stage.host := by
  have first := collects.replied entry out d.stage.host
  have ways := settled entry out d
  unfold Control.final at first ⊢
  generalize settle entry out d = outcome at ways ⊢
  cases ways with
  | callbackPanics replied =>
      rw [replied] at first
      exact first
  | undecided replied reports =>
      rw [replied] at first
      exact first
  | @hostPanics h frame event p k replied reports resolved =>
      rw [replied] at first
      have next := collects.asked.resolve frame h
      rw [Control.final_error resolved] at next
      exact trans_of (Starts stats) first next
  | @frameGone h frame event k replied reports resolved =>
      rw [replied] at first
      have next := collects.asked.resolve frame h
      rw [Control.final_ok resolved] at next
      exact trans_of (Starts stats) first next
  | reported replied reports resolved same effects =>
      rw [Pending.passStart?_eq_some.mpr ⟨_, _, _, _, replied, reports, resolved⟩] at unpassed
      cases unpassed
  | observerPanics replied reports resolved first effects =>
      rw [Pending.passStart?_eq_some.mpr ⟨_, _, _, _, replied, reports, resolved⟩] at unpassed
      cases unpassed

/-- Up to the pass at most a start happens, and the pass itself is all that happens then. -/
theorem settle_passed (collects : Collects stats o)
    (passed : entry.passStart? out d.stage.host = some k) :
    Starts stats d.stage.host k ∧ ∃ n, entry.due out d.stage.host = some n ∧
      ∀ e, settle entry out d = .ok () e →
        n.tellAll (d.observers.prune (Host.owned k)).entries k = .ok () e.stage.host := by
  obtain ⟨after, frame, event, live, replied, reports, resolved⟩ :=
    Pending.passStart?_eq_some.mp passed
  have first := collects.replied entry out d.stage.host
  have next := collects.asked.resolve frame after
  rw [Control.final_ok replied] at first
  rw [Control.final_ok resolved] at next
  refine ⟨trans_of (Starts stats) first next, event live,
    Pending.due_eq_some.mpr ⟨after, frame, event, live, k, replied, reports, resolved, rfl⟩, ?_⟩
  intro e settled
  have answered := reply_apply entry out d
  rw [replied] at answered
  rw [settle_eq, Control.bind_of_ok _ answered, report_apply, reports] at settled
  simp only [logged_host, resolved] at settled
  obtain ⟨told, t, -, -, ⟨announced, -, heard⟩ | ⟨p, panicked, -⟩⟩ :=
    announce_apply (event live)
      ((d.logged (entry.replies out) after).logged [.resolved frame (some live)] k)
  · rw [announced] at settled
    cases settled
    exact heard
  · rw [panicked] at settled
    cases settled

/-- What is counted of a delivery is what it reports, if statistics are collected from its start. -/
theorem since_delivery (collects : Collects stats o)
    (led : x.after = Control.final (complete x.outcome) x.before)
    (distinct : x.before.observers.entries.Nodup) (attended : x.Attended stats o)
    (since : (stats x.before.stage.host).Since (ads.map .adMatched)) :
    (stats x.after.stage.host).Since ((ads ++ x.collected stats).map .adMatched) := by
  cases known : x.before.pending.lookup x.outcome.id with
  | none =>
      have nothing : x.passStart? = none := by
        simp [Delivery.passStart?, Dispatcher.passStart?, known]
      have same : x.after = x.before := led.trans (Control.final_ok (complete_of_none known))
      rw [Delivery.collected, nothing, List.append_nil, same]
      exact since
  | some entry =>
      have start : x.passStart? = entry.passStart? x.outcome.output x.before.stage.host := by
        simp [Delivery.passStart?, Dispatcher.passStart?, known]
      cases passes : x.passStart? with
      | none =>
          rw [Delivery.collected, passes, List.append_nil, led,
            Control.final_congr (complete_of_some known)]
          have starts := settle_unpassed (d := x.before.forgetting x.outcome.id) collects
            (start.symm.trans passes)
          exact starts.since since
      | some k =>
          obtain ⟨starts, n, due, heard⟩ := settle_passed (d := x.before.forgetting x.outcome.id)
            collects (start.symm.trans passes)
          have completed := attended.unpanicked k passes
          rw [complete_of_some known] at completed
          have reported : adsMatched x.effects = n.adMatched?.toList := by
            rw [Delivery.adsMatched_eq led, known]
            exact congrArg (fun due => (due.bind Notification.adMatched?).toList) due
          -- an observer that is not told is one that would not count either
          have observed : stats x.after.stage.host = (stats k).observe n := by
            rw [collects.tellAll (distinct.filter _) (heard x.after completed)]
            split
            · rfl
            · next absent =>
                refine (SessionStats.observe_of_idle ?_ n).symm
                refine Bool.eq_false_iff.mpr fun collecting => ?_
                obtain ⟨registered, owned⟩ := attended.present k passes collecting
                exact absent (List.mem_filter.mpr ⟨registered, by simp [ObserverList.alive, owned]⟩)
          rw [Delivery.collected, passes, observed, reported]
          exact (starts.since since).report n

theorem since_delivers (collects : Collects stats o) (delivers : Delivers d xs e)
    (distinct : d.observers.entries.Nodup) (attended : ∀ x ∈ xs, x.Attended stats o)
    (since : (stats d.stage.host).Since (ads.map .adMatched)) :
    (stats e.stage.host).Since ((ads ++ xs.flatMap (Delivery.collected stats)).map .adMatched) := by
  induction delivers generalizing ads with
  | done d => rwa [List.flatMap_nil, List.append_nil]
  | @next d f queue rest e found delivers ih =>
      rw [List.flatMap_cons, ← List.append_assoc]
      refine ih ?_ (fun x later => attended x (List.mem_cons_of_mem _ later)) ?_
      · rw [complete_observers]
        exact (ObserverList.sweep_sublist _ _).nodup distinct
      · exact collects.since_delivery rfl distinct (attended _ List.mem_cons_self) since

theorem collected_delivery (collects : Collects stats o)
    (led : x.after = Control.final (complete x.outcome) x.before)
    (collecting : (stats x.before.stage.host).collecting = true) :
    x.collected stats = adsMatched x.effects := by
  unfold Delivery.collected
  cases passes : x.passStart? with
  | none => exact (Delivery.adsMatched_of_unpassed led passes).symm
  | some k =>
      obtain ⟨entry, -, start⟩ := Option.bind_eq_some_iff.mp passes
      obtain ⟨starts, -⟩ := settle_passed collects start
      exact if_pos (starts.lasts collecting)

theorem collected_delivers (collects : Collects stats o) (delivers : Delivers d xs e)
    (collecting : (stats d.stage.host).collecting = true) :
    xs.flatMap (Delivery.collected stats) = xs.flatMap fun x => adsMatched x.effects := by
  induction delivers with
  | done d => rfl
  | @next d f queue rest e found delivers ih =>
      have lasts := complete_along collects.lasting f { d with queue }
      rw [List.flatMap_cons, List.flatMap_cons, ih (lasts collecting)]
      congr 1
      exact collects.collected_delivery rfl collecting

theorem starts_aside (collects : Collects stats o) (engine : Engine) (d : Dispatcher σ)
    (acts : op.changesHost = false) (stays : op.drains = false) (own : op.injects = false) :
    Starts stats d.stage.host (step engine op d).2.stage.host := by
  rw [step_final]
  exact perform_along_aside collects.asked.onHost
    (fun call a => Stage.answer_along (collects.receive call a)) (fun _ => Stage.note_along _)
    (fun other _ => Stage.tell_along (collects.unmatched other rfl)) engine acts stays own d

theorem lasts_step (collects : Collects stats o) (starting : op.Starting stats)
    (d : Dispatcher σ) : Lasts stats d.stage.host (step engine op d).2.stage.host := by
  cases acts : op.changesHost with
  | false =>
      rw [step_final]
      exact perform_along collects.lasting engine acts d
  | true =>
      cases op with
      | changeHost change => exact (starting change rfl d.stage.host).lasts
      | _ => cases acts

theorem since_step (collects : Collects stats o) (accounted : d.queue.Accounted)
    (distinct : d.observers.entries.Nodup) (starting : op.Starting stats)
    (attended : ∀ x ∈ (stride engine op d).completions, x.Attended stats o)
    (since : (stats d.stage.host).Since (ads.map .adMatched)) :
    (stats (step engine op d).2.stage.host).Since
      ((ads ++ (stride engine op d).completions.flatMap (Delivery.collected stats)).map
        .adMatched) := by
  have drained (drains : op.drains = true) (own : op.injects = false) :
      (stats (step engine op d).2.stage.host).Since
        ((ads ++ (stride engine op d).completions.flatMap (Delivery.collected stats)).map
          .adMatched) := by
    have all := Stride.completions_of_own (s := stride engine op d) own
    rw [all] at attended ⊢
    have drained := step_drained engine drains accounted
    exact collects.since_delivers drained.delivers distinct attended since
  have still (none : (stride engine op d).completions = [])
      (starts : Starts stats d.stage.host (step engine op d).2.stage.host) :
      (stats (step engine op d).2.stage.host).Since
        ((ads ++ (stride engine op d).completions.flatMap (Delivery.collected stats)).map
          .adMatched) := by
    rw [none, List.flatMap_nil, List.append_nil]
    exact starts.since since
  cases op with
  | complete f =>
      have led := step_complete engine f d
      have own := attended ⟨f, d, (step engine (.complete f) d).2⟩ (List.mem_singleton_self _)
      have counted := collects.since_delivery led distinct own since
      have one : (stride engine (.complete f) d).completions.flatMap (Delivery.collected stats) =
          Delivery.collected stats ⟨f, d, (step engine (.complete f) d).2⟩ :=
        List.flatMap_singleton _ _
      rwa [one]
  | next => exact drained rfl rfl
  | ready => exact drained rfl rfl
  | untilIdle => exact drained rfl rfl
  | changeHost change => exact still rfl (starting change rfl d.stage.host)
  | _ => exact still rfl (collects.starts_aside engine d rfl rfl rfl)

theorem collected_stride (collects : Collects stats o) (engine : Engine) (op : Op σ)
    (accounted : d.queue.Accounted) (collecting : (stats d.stage.host).collecting = true) :
    (stride engine op d).completions.flatMap (Delivery.collected stats) =
      adsMatched (stride engine op d).effects := by
  rw [stride_adsMatched engine op accounted]
  cases drains : op.drains with
  | true =>
      have own : (stride engine op d).op.injects = false := by
        cases op <;> first | rfl | cases drains
      rw [Stride.completions_of_own own]
      exact collects.collected_delivers (step_drained engine drains accounted).delivers collecting
  | false =>
      cases op with
      | complete f =>
          have one := collects.collected_delivery (x := ⟨f, d, (step engine (.complete f) d).2⟩)
            (step_complete engine f d) collecting
          change [_].flatMap _ = [_].flatMap _
          rw [List.flatMap_singleton, List.flatMap_singleton]
          exact one
      | next => cases drains
      | ready => cases drains
      | untilIdle => cases drains
      | _ => rfl

/-- The matches that are reported in a run while statistics are collected. -/
def matched (stats : σ → SessionStats) (track : List (Stride σ)) : List AdMatched :=
  track.flatMap fun t => t.completions.flatMap (Delivery.collected stats)

theorem since_run (collects : Collects stats o) (h : d.Orderly)
    (distinct : d.observers.entries.Nodup) (starting : ∀ op ∈ ops, op.Starting stats)
    (attended : ∀ t ∈ strides engine ops d, ∀ x ∈ t.completions, x.Attended stats o)
    (since : (stats d.stage.host).Since (ads.map .adMatched)) :
    (stats (run engine ops d).2.stage.host).Since
      ((ads ++ matched stats (strides engine ops d)).map .adMatched) := by
  induction ops generalizing d ads with
  | nil => rwa [strides, matched, List.flatMap_nil, List.append_nil]
  | cons op rest ih =>
      have next := collects.since_step h.accounted distinct (starting op List.mem_cons_self)
        (attended _ List.mem_cons_self) since
      have further := ih (step_orderly engine op h) (step_distinct engine op h.accounted distinct)
        (fun later member => starting later (List.mem_cons_of_mem _ member))
        (fun t member => attended t (List.mem_cons_of_mem _ member)) next
      rwa [List.append_assoc] at further

theorem adsMatched_append (first later : List Effect) :
    adsMatched (first ++ later) = adsMatched first ++ adsMatched later := by
  simp only [adsMatched, reportsOf, List.filterMap_append]

/-- Once statistics are collected, every match that is reported counts. -/
theorem matched_run (collects : Collects stats o) (h : d.Orderly)
    (starting : ∀ op ∈ ops, op.Starting stats)
    (collecting : (stats d.stage.host).collecting = true) :
    matched stats (strides engine ops d) = adsMatched (effectsSince d (run engine ops d).2) := by
  induction ops generalizing d with
  | nil =>
      rw [run, effectsSince_same rfl]
      rfl
  | cons op rest ih =>
      have next := step_orderly engine op h
      have lasts : Lasts stats d.stage.host (step engine op d).2.stage.host :=
        collects.lasts_step (starting op List.mem_cons_self) d
      have others := ih next (fun later member => starting later (List.mem_cons_of_mem _ member))
        (lasts collecting)
      rw [run_cons, effectsSince_trans (step_grown engine op h.accounted) (run_grown engine rest next),
        adsMatched_append, ← others]
      exact congrArg (· ++ _) (collects.collected_stride engine op h.accounted collecting)

end Collects

namespace Dispatcher

open Scenario (World counter)

variable {engine : Engine} {ops : List (Op σ)} {d : Dispatcher σ}

/-- What the statistics hold after a run: the matches that passes reported since the start. -/
structure MatchesCounted (stats : σ → SessionStats) (engine : Engine) (ops : List (Op σ))
    (d : Dispatcher σ) : Prop where
  passes : ∀ t ∈ strides engine ops d,
    adsMatched t.effects = t.completions.flatMap fun x => adsMatched x.effects
  allowed : (stats (run engine ops d).2.stage.host).allowed.Listing .allowRule
    ((Collects.matched stats (strides engine ops d)).map .adMatched)
  blocked : (stats (run engine ops d).2.stage.host).blocked.Listing .blockRule
    ((Collects.matched stats (strides engine ops d)).map .adMatched)
  total : (stats (run engine ops d).2.stage.host).total =
    (Collects.matched stats (strides engine ops d)).length
  /-- After a start between two operations, what is counted is all that passes report from there on. -/
  onward : ∀ first later, ops = first ++ later →
    stats (run engine first d).2.stage.host = SessionStats.start {} →
      (stats (run engine ops d).2.stage.host).total =
        (adsMatched (effectsSince (run engine first d).2 (run engine ops d).2)).length

theorem run_distinct (engine : Engine) (ops : List (Op σ)) (h : d.Orderly)
    (distinct : d.observers.entries.Nodup) : (run engine ops d).2.observers.entries.Nodup := by
  induction ops generalizing d with
  | nil => exact distinct
  | cons op rest ih =>
      exact ih (step_orderly engine op h) (step_distinct engine op h.accounted distinct)

theorem matched_isMatch (h : d.Orderly) : ∀ event ∈ Collects.matched stats (strides engine ops d),
    event.result.isMatch = true := by
  intro event member
  obtain ⟨t, there, member⟩ := List.mem_flatMap.mp member
  obtain ⟨x, completed, member⟩ := List.mem_flatMap.mp member
  obtain ⟨same, before⟩ := stride_of_member h there
  rw [same] at completed
  have led := stride_led before.accounted x completed
  apply Delivery.isMatch_of_adsMatched led
  unfold Delivery.collected at member
  split at member
  · split at member
    · exact member
    · cases member
  · cases member

omit [Host σ] in
theorem countP_matches {ads : List AdMatched} (all : ∀ event ∈ ads, event.result.isMatch = true) :
    (ads.map Notification.adMatched).countP Notification.counts = ads.length := by
  rw [List.countP_map, List.countP_eq_length]
  exact all

theorem matches_counted :
    (∀ inputs, SessionStats.Session inputs) ∧
    ∀ {σ : Type} [Host σ] {stats : σ → SessionStats} {o : ObserverId} {engine : Engine} {n : Nat}
      {host : σ} {d : Dispatcher σ} {ops : List (Op σ)}, Collects stats o →
      Dispatcher.new n host = .ok d → stats host = {} → (∀ op ∈ ops, op.Starting stats) →
      (∀ t ∈ strides engine ops d, ∀ x ∈ t.completions, x.Attended stats o) →
      MatchesCounted stats engine ops d := by
  refine ⟨SessionStats.sessions, ?_⟩
  intro σ _ stats o engine n host d ops collects made fresh starting attended
  have start := new_orderly made
  have distinct : d.observers.entries.Nodup := by
    rw [new_observers made]
    exact List.nodup_nil
  have unbegun : (stats d.stage.host).Since (([] : List AdMatched).map .adMatched) := by
    rw [new_host made, fresh]
    exact .idle
  obtain ⟨allowed, blocked, total⟩ :=
    (collects.since_run start distinct starting attended unbegun).listings
  refine ⟨?passes, allowed, blocked, ?total, ?onward⟩
  case passes =>
    intro t member
    obtain ⟨same, there⟩ := stride_of_member start member
    rw [same]
    exact stride_adsMatched engine t.op there.accounted
  case total => rw [total, List.nil_append, countP_matches (matched_isMatch start)]
  case onward =>
    rintro first later rfl begun
    have there := run_orderly engine first start
    have fresh' : (stats (run engine first d).2.stage.host).Since
        (([] : List AdMatched).map .adMatched) := by
      rw [begun]
      exact .collecting SessionStats.started rfl
    have later_starting : ∀ op ∈ later, op.Starting stats := fun op member =>
      starting op (List.mem_append_right _ member)
    have collecting : (stats (run engine first d).2.stage.host).collecting = true := by rw [begun]; rfl
    rw [strides_append] at attended
    have since := collects.since_run there (run_distinct engine first start distinct) later_starting
      (fun t member => attended t (List.mem_append_right _ member)) fresh'
    obtain ⟨-, -, total⟩ := since.listings
    rw [run_append, total, List.nil_append, countP_matches (matched_isMatch there),
      collects.matched_run there later_starting collecting]

/-- In a scenario one observer counts, and only what it is told. -/
theorem world_collects : Collects World.stats counter where
  observes _ _ := rfl
  apart other apart n w := by
    change (w.observe other n).stats = w.stats
    rw [World.observe, if_neg apart]
    split <;> rfl
  asked := ⟨fun _ _ => .inl rfl, fun _ _ => .inl rfl, fun _ _ => .inl rfl, fun _ _ => .inl rfl⟩
  receive _ _ _ := .inl rfl

/-- Of two blocked images the second one is counted: statistics are started between the two. -/
theorem second_image_counted :
    let url : Url := ⟨"https://b.example/x.png"⟩
    let list : Url := ⟨"https://list.example/"⟩
    let live : LiveFrame := ⟨⟨1, 2⟩, ⟨"https://a.example/"⟩⟩
    let engine : Engine := ⟨fun _ => .ok (.blocked list)⟩
    let world : World := { frames := .ofDeclared [{ live }], siteKeys := [], tables := [] }
    let start : Dispatcher World := { queue := { free := 1 }, stage := { host := world } }
    let ops : List (Op World) :=
      [.addObserver counter, .response [] url .image live.id {} 7, .start 0, .finish 0, .next,
        .changeHost fun w => { w with stats := w.stats.start },
        .response [] url .image live.id {} 8, .start 1, .finish 1, .next]
    MatchesCounted World.stats engine ops start ∧
      ((strides engine ops start).flatMap fun t => adsMatched t.effects).length = 2 ∧
      (run engine ops start).2.stage.host.stats.blocked = [(list, 1)] := by
  intro url list live engine world start ops
  have starting : ∀ op ∈ ops, op.Starting World.stats := by
    intro op member change same w
    simp only [ops, List.mem_cons, List.not_mem_nil, or_false] at member
    rcases member with rfl | rfl | rfl | rfl | rfl | rfl | rfl | rfl | rfl | rfl
    all_goals cases same
    exact .inr rfl
  have registered : ∀ t ∈ strides engine ops start, ∀ x ∈ t.completions,
      counter ∈ x.before.observers.entries := by decide +kernel
  have attended : ∀ t ∈ strides engine ops start, ∀ x ∈ t.completions,
      x.Attended World.stats counter := by
    intro t there x completed
    obtain ⟨same, before⟩ := stride_of_member (new_orderly (n := 1) (d := start) rfl) there
    have led := stride_led before.accounted x (same ▸ completed)
    exact ⟨fun k passes => Delivery.unpanicked (fun _ _ _ => ⟨_, rfl⟩) led passes,
      fun k passes collecting => ⟨registered t there x completed, rfl⟩⟩
  exact ⟨matches_counted.2 (n := 1) world_collects rfl rfl starting attended, by decide +kernel,
    by decide +kernel⟩

end Dispatcher

end FilterDispatch
