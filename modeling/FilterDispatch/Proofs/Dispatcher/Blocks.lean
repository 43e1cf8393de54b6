import FilterDispatch.Proofs.Dispatcher.Reports

/-!
Blocks.  The journal of a run without panics is made of blocks: a call writes one and so does each
delivery, in the order in which they happen, and nothing else writes anything.
-/

namespace FilterDispatch.Dispatcher

variable {σ : Type}

/-- A pass over observers, each of whom is told in turn. -/
def passOver (n : Notification) (os : List ObserverId) : List Effect :=
  .pass n :: os.map (.told · n)

variable [Host σ]

/-- What a call writes, with what the host answered to it. -/
inductive EntryBlock (d : Dispatcher σ) : Op σ → List Effect → Prop
  | requestDenied {snapshot url contentType frame callback h} :
      (Call.request snapshot url contentType frame callback).look d.stage.host = .ok none h →
      EntryBlock d (.request snapshot url contentType frame callback)
        [.resolved frame none, .callback callback (.result .noRule)]
  | requestPosted {snapshot url contentType frame callback s h} :
      (Call.request snapshot url contentType frame callback).look d.stage.host = .ok (some s) h →
      EntryBlock d (.request snapshot url contentType frame callback)
        [.resolved frame (some s.live), .ancestorsOf s.live, .siteKeyFor s.ancestors]
  | socketDenied {snapshot url frame callback h} :
      (Call.request snapshot url .websocket frame callback).look d.stage.host = .ok none h →
      EntryBlock d (.socketUpgrade snapshot url frame callback)
        [.resolved frame none, .callback callback (.result .noRule)]
  | socketPosted {snapshot url frame callback s h} :
      (Call.request snapshot url .websocket frame callback).look d.stage.host = .ok (some s) h →
      EntryBlock d (.socketUpgrade snapshot url frame callback)
        [.resolved frame (some s.live), .ancestorsOf s.live, .siteKeyFor s.ancestors]
  | responseDenied {snapshot url contentType frame headers callback h} :
      (Call.response snapshot url contentType frame headers callback).look d.stage.host =
        .ok none h →
      EntryBlock d (.response snapshot url contentType frame headers callback)
        [.resolved frame none, .callback callback (.result .noRule)]
  | responsePosted {snapshot url contentType frame headers callback s h} :
      (Call.response snapshot url contentType frame headers callback).look d.stage.host =
        .ok (some s) h →
      EntryBlock d (.response snapshot url contentType frame headers callback)
        [.resolved frame (some s.live), .ancestorsOf s.live]
  | rewriteDenied {snapshot url frame callback h} :
      (Call.rewrite snapshot url frame callback).look d.stage.host = .ok none h →
      EntryBlock d (.rewrite snapshot url frame callback)
        [.resolved frame none, .callback callback (.rewrite none)]
  | rewritePosted {snapshot url frame callback s h} :
      (Call.rewrite snapshot url frame callback).look d.stage.host = .ok (some s) h →
      EntryBlock d (.rewrite snapshot url frame callback)
        [.resolved frame (some s.live), .ancestorsOf s.live]
  | document {snapshot url frame} : EntryBlock d (.document snapshot url frame) []
  | popupGone {snapshot url frame h} : Sight.look frame d.stage.host = .ok none h →
      EntryBlock d (.popup snapshot url frame) [.resolved frame none]
  | popupUndecided {snapshot url frame s h c k} :
      Sight.look frame d.stage.host = .ok (some s) h →
      Host.classifyInline (.popup snapshot url s.ancestors s.siteKey) h = .ok c k →
      c.subscription? = none →
      EntryBlock d (.popup snapshot url frame)
        [.resolved frame (some s.live), .ancestorsOf s.live, .siteKeyFor s.ancestors,
          .engineCall (.popup snapshot url s.ancestors s.siteKey)]
  | popupMatched {snapshot url frame s h c k subscription} :
      Sight.look frame d.stage.host = .ok (some s) h →
      Host.classifyInline (.popup snapshot url s.ancestors s.siteKey) h = .ok c k →
      c.subscription? = some subscription →
      EntryBlock d (.popup snapshot url frame)
        ([.resolved frame (some s.live), .ancestorsOf s.live, .siteKeyFor s.ancestors,
            .engineCall (.popup snapshot url s.ancestors s.siteKey)] ++
          passOver
            (.popupMatched
              { url, result := c.result, opener := s.ancestors.head?, frame := s.live,
                subscription })
            (d.observers.prune (Host.owned k)).entries)

/-- What the delivery of an entry writes, with what the host did in it. -/
inductive OutcomeBlock (x : Delivery σ) : Pending → List Effect → Prop
  | resourceFailed {r e} : x.outcome.output = .error e →
      OutcomeBlock x (.resource r) [.callback r.callback (.result .noRule)]
  | resourceUndecided {r c} : x.outcome.output = .ok (.classified c) → c.subscription? = none →
      OutcomeBlock x (.resource r) [.callback r.callback (.result c.result)]
  | resourceGone {r c subscription h k} : x.outcome.output = .ok (.classified c) →
      c.subscription? = some subscription →
      Host.receive r.callback (.result c.result) x.before.stage.host = .ok () h →
      Host.resolve r.frame h = .ok none k →
      OutcomeBlock x (.resource r)
        [.callback r.callback (.result c.result), .resolved r.frame none]
  | adMatched {r c subscription h live k} : x.outcome.output = .ok (.classified c) →
      c.subscription? = some subscription →
      Host.receive r.callback (.result c.result) x.before.stage.host = .ok () h →
      Host.resolve r.frame h = .ok (some live) k →
      OutcomeBlock x (.resource r)
        ([.callback r.callback (.result c.result), .resolved r.frame (some live)] ++
          passOver
            (.adMatched
              { url := r.url, result := c.result, ancestors := r.ancestors,
                contentType := r.contentType, frame := live, subscription })
            (x.before.observers.prune (Host.owned k)).entries)
  | rewriteFailed {url callback e} : x.outcome.output = .error e →
      OutcomeBlock x (.rewrite url callback) [.callback callback (.rewrite none)]
  | rewritten {url callback target} : x.outcome.output = .ok (.rewritten target) →
      OutcomeBlock x (.rewrite url callback) [.callback callback (.rewrite target)]
  | documentFailed {url frame e} : x.outcome.output = .error e →
      OutcomeBlock x (.document url frame) []
  | documentUnlisted {url frame} : x.outcome.output = .ok (.allowlisted none) →
      OutcomeBlock x (.document url frame) []
  | documentGone {url frame subscription k} :
      x.outcome.output = .ok (.allowlisted (some subscription)) →
      Host.resolve frame x.before.stage.host = .ok none k →
      OutcomeBlock x (.document url frame) [.resolved frame none]
  | pageAllowed {url frame subscription live k} :
      x.outcome.output = .ok (.allowlisted (some subscription)) →
      Host.resolve frame x.before.stage.host = .ok (some live) k →
      OutcomeBlock x (.document url frame)
        ([.resolved frame (some live)] ++
          passOver (.pageAllowed { url, frame := live, subscription })
            (x.before.observers.prune (Host.owned k)).entries)

variable {engine : Engine} {op : Op σ} {d e : Dispatcher σ} {xs : List (Delivery σ)}
  {ops : List (Op σ)}

def Op.enters : Op σ → Bool
  | .request .. | .socketUpgrade .. | .response .. | .document .. | .rewrite .. | .popup .. => true
  | _ => false

theorem call_effects {c : Call} {r : Response} (mine : op.call? = some c)
    (accounted : d.queue.Accounted) (own : op.injects = false)
    (fine : step engine op d = (.ok r, e)) :
    (∃ h, c.look d.stage.host = .ok none h ∧
      effectsSince d e = c.inquiries none ++ [.callback c.callback c.denied]) ∨
    ∃ s h, c.look d.stage.host = .ok (some s) h ∧ effectsSince d e = c.inquiries (some s) := by
  have course := course engine accounted own
  rw [fine] at course
  rcases course.of_call mine with ⟨h, k, looked, rfl⟩ | ⟨s, h, looked, rfl⟩
  · exact .inl ⟨h, looked, effectsSince_eq (Stage.effects_log _ _ _)⟩
  · exact .inr ⟨s, h, looked, effectsSince_eq (Stage.effects_log _ _ _)⟩

theorem popup_block {snapshot : Snapshot} {url : Url} {frame : FrameId} {r : MatchResult}
    (fine : popup snapshot url frame d = .ok r e) :
    EntryBlock d (.popup snapshot url frame) (effectsSince d e) := by
  have ways := popped snapshot url frame d
  rw [fine] at ways
  cases ways with
  | frameGone looked =>
      rw [effectsSince_eq (logged_effects _ _ d)]
      exact .popupGone looked
  | undecided looked ruled reports =>
      rw [effectsSince_eq (logged_effects _ _ d)]
      exact .popupUndecided looked ruled (Option.map_eq_none_iff.mp reports)
  | reported looked ruled reports same effects =>
      obtain ⟨subscription, decided, rfl⟩ := Option.map_eq_some_iff.mp reports
      rw [effectsSince_eq effects, same]
      exact .popupMatched looked ruled decided

theorem entry_block {r : Response} (enters : op.enters = true) (accounted : d.queue.Accounted)
    (fine : step engine op d = (.ok r, e)) : EntryBlock d op (effectsSince d e) := by
  cases op with
  | request =>
      rcases call_effects rfl accounted rfl fine with ⟨h, looked, same⟩ | ⟨s, h, looked, same⟩
      · exact same ▸ .requestDenied looked
      · exact same ▸ .requestPosted looked
  | socketUpgrade =>
      rcases call_effects rfl accounted rfl fine with ⟨h, looked, same⟩ | ⟨s, h, looked, same⟩
      · exact same ▸ .socketDenied looked
      · exact same ▸ .socketPosted looked
  | response =>
      rcases call_effects rfl accounted rfl fine with ⟨h, looked, same⟩ | ⟨s, h, looked, same⟩
      · exact same ▸ .responseDenied looked
      · exact same ▸ .responsePosted looked
  | rewrite =>
      rcases call_effects rfl accounted rfl fine with ⟨h, looked, same⟩ | ⟨s, h, looked, same⟩
      · exact same ▸ .rewriteDenied looked
      · exact same ▸ .rewritePosted looked
  | document snapshot url frame =>
      have same : e.stage = d.stage := by
        cases fine
        rfl
      rw [effectsSince_same same]
      exact .document
  | popup snapshot url frame =>
      cases ruled : popup snapshot url frame d with
      | ok m e' =>
          have performed : perform engine (.popup snapshot url frame) d = .ok (.result m) e' :=
            Control.bind_of_ok _ ruled
          rw [step_of_ok performed] at fine
          cases fine
          exact popup_block ruled
      | error p e' =>
          have performed : perform engine (.popup snapshot url frame) d = .error p e' :=
            Control.bind_of_error _ ruled
          rw [step_of_error performed] at fine
          cases fine
  | _ => cases enters

theorem Drained.fine {r : Option Panic} (drained : Drained d xs r e) (fine : r = none) :
    ∀ x ∈ xs, complete x.outcome x.before = .ok () x.after := by
  induction drained with
  | done d => simp
  | next found completed rest ih =>
      intro x member
      rcases List.mem_cons.mp member with rfl | later
      · exact completed
      · exact ih fine x later
  | panicked found completed => cases fine

omit [Host σ] in
/-- The kind of jobs that come to such an output. -/
def kindOf : JobOutput → JobKind
  | .classified _ => .classification
  | .allowlisted _ => .allowlisting
  | .rewritten _ => .rewriting

omit [Host σ] in
theorem kindOf_run {job : Job} {o : JobOutput}
    (done : (job.run engine).mapError JobError.ofPanic = .ok o) : kindOf o = job.kind := by
  cases job with
  | classify call =>
      simp only [Job.run, Job.evaluate, Evaluation.call] at done
      cases h : engine.classify call with
      | ok c => rw [h] at done; cases done; rfl
      | error p => rw [h] at done; cases done
  | allowlist snapshot url =>
      simp only [Job.run, Job.evaluate, Evaluation.map, Evaluation.mapCalls] at done
      cases h : (snapshot.documentAllowlistedBy url).outcome with
      | ok c => rw [h] at done; cases done; rfl
      | error p => rw [h] at done; cases done
  | rewrite snapshot url ancestors =>
      simp only [Job.run, Job.evaluate, Evaluation.map, Evaluation.mapCalls] at done
      cases h : (snapshot.firstRewriteTarget url ancestors).outcome with
      | ok c => rw [h] at done; cases done; rfl
      | error p => rw [h] at done; cases done

omit [Host σ] in
theorem report?_cases {entry : Pending} {out : Except JobError JobOutput} {frame : FrameId}
    {event : LiveFrame → Notification} (reports : entry.report? out = some (frame, event)) :
    (∃ r c subscription, entry = .resource r ∧ out = .ok (.classified c) ∧
      c.subscription? = some subscription ∧ r.frame = frame ∧
      (fun live => .adMatched
        { url := r.url, result := c.result, ancestors := r.ancestors, contentType := r.contentType,
          frame := live, subscription }) = event) ∨
    ∃ url subscription, entry = .document url frame ∧
      out = .ok (.allowlisted (some subscription)) ∧
      (fun live => .pageAllowed { url, frame := live, subscription }) = event := by
  cases entry with
  | rewrite url callback => cases reports
  | resource r =>
      cases out with
      | error e => cases reports
      | ok o =>
          cases o with
          | classified c =>
              obtain ⟨subscription, decided, same⟩ := Option.map_eq_some_iff.mp reports
              cases same
              exact .inl ⟨r, c, subscription, rfl, rfl, decided, rfl, rfl⟩
          | _ => cases reports
  | document url other =>
      cases out with
      | error e => cases reports
      | ok o =>
          cases o with
          | allowlisted subscription? =>
              obtain ⟨subscription, rfl, same⟩ := Option.map_eq_some_iff.mp reports
              cases same
              exact .inr ⟨url, subscription, rfl, rfl, rfl⟩
          | _ => cases reports

theorem outcome_block {x : Delivery σ} {entry : Pending}
    (known : x.before.pending.lookup x.outcome.id = some entry)
    (completed : complete x.outcome x.before = .ok () x.after)
    (fits : ∀ o, x.outcome.output = .ok o → kindOf o = entry.kind) :
    OutcomeBlock x entry x.effects := by
  have ways := settled entry x.outcome.output (x.before.forgetting x.outcome.id)
  rw [← complete_of_some known, completed] at ways
  generalize output : x.outcome.output = out at ways
  generalize after : x.after = e at ways
  have effects {new : List Effect} (grown : e.stage.effects = x.before.stage.effects ++ new) :
      x.effects = new := by
    rw [Delivery.effects, after]
    exact effectsSince_eq grown
  cases ways with
  | undecided replied reports =>
      rw [effects (logged_effects _ _ _)]
      cases entry with
      | resource r =>
          cases out with
          | error e => exact .resourceFailed output
          | ok o =>
              cases o with
              | classified c =>
                  exact .resourceUndecided output (Option.map_eq_none_iff.mp reports)
              | _ => cases fits _ output
      | document url frame =>
          cases out with
          | error e => exact .documentFailed output
          | ok o =>
              cases o with
              | allowlisted subscription? =>
                  cases subscription? with
                  | none => exact .documentUnlisted output
                  | some subscription => cases reports
              | _ => cases fits _ output
      | rewrite url callback =>
          cases out with
          | error e => exact .rewriteFailed output
          | ok o =>
              cases o with
              | rewritten target => exact .rewritten output
              | _ => cases fits _ output
  | frameGone replied reports resolved =>
      rw [effects (logged_effects _ _ _)]
      rcases report?_cases reports with
        ⟨r, c, subscription, rfl, rfl, decided, rfl, rfl⟩ | ⟨url, subscription, rfl, rfl, rfl⟩
      · exact .resourceGone output decided replied resolved
      · cases replied
        exact .documentGone output resolved
  | reported replied reports resolved same grown =>
      rw [effects grown, same]
      rcases report?_cases reports with
        ⟨r, c, subscription, rfl, rfl, decided, rfl, rfl⟩ | ⟨url, subscription, rfl, rfl, rfl⟩
      · exact .adMatched output decided replied resolved
      · cases replied
        exact .pageAllowed output resolved

/-- The blocks that an operation writes: one if it is a call, one a delivery if it is a drain. -/
def Stride.blocks (s : Stride σ) : List (List Effect) :=
  if s.op.drains then s.deliveries.map Delivery.effects
  else if s.op.enters then [s.effects]
  else []

/-- The journal of a run as blocks: a call writes what its kind writes, and each delivery what becomes
of the job that an earlier call posted, in the order of the queue. -/
structure Blocks (engine : Engine) (track : List (Stride σ)) (effects : List Effect) : Prop where
  whole : effects = (track.flatMap Stride.blocks).flatten
  entry : ∀ s ∈ track, s.op.enters = true → EntryBlock s.before s.op s.effects
  order : ∀ t ∈ track, ∃ left,
    t.before.queue.finished = t.deliveries.map (·.outcome) ++ left
  outcome : ∀ before t after, track = before ++ t :: after → ∀ x ∈ t.deliveries,
    ∃ s ∈ before, s.Posts x.outcome.id ∧ ∃ job entry, Source s.op s.before job entry ∧
      x.outcome.output = (job.run engine).mapError JobError.ofPanic ∧
      OutcomeBlock x entry x.effects

theorem silent_effects (engine : Engine) (enters : op.enters = false) (stays : op.drains = false)
    (own : op.injects = false) : effectsSince d (step engine op d).2 = [] := by
  have same : (step engine op d).2.stage.effects = d.stage.effects := by
    cases op with
    | addObserver => rfl
    | removeObserver => rfl
    | changeHost => rfl
    | start id => exact congrArg Stage.effects (start_stage id d)
    | finish id => exact congrArg Stage.effects (finish_stage engine id d)
    | complete => cases own
    | next => cases stays
    | ready => cases stays
    | untilIdle => cases stays
    | _ => cases enters
  exact effectsSince_eq (same.trans (List.append_nil _).symm)

theorem stride_blocks (accounted : d.queue.Accounted) (own : op.injects = false) :
    (stride engine op d).effects = (stride engine op d).blocks.flatten := by
  unfold Stride.blocks
  split
  · next drains =>
      have delivers := (step_drained engine drains accounted).delivers
      rw [← List.flatMap_def]
      exact effectsSince_eq delivers.effects
  · next stays =>
      split
      · exact (List.append_nil _).symm
      · next silent =>
          exact silent_effects engine (Bool.eq_false_iff.mpr silent) (Bool.eq_false_iff.mpr stays) own

theorem Source.kind {job : Job} {entry : Pending} (source : Source op d job entry) :
    entry.kind = job.kind := by
  cases source with
  | call mine looked => exact Call.fits _ _
  | document same => rfl

theorem stride_of_mem {s : Stride σ} (h : d.InStep engine) (own : ∀ op ∈ ops, op.injects = false)
    (member : s ∈ strides engine ops d) :
    s.before.InStep engine ∧ s.op.injects = false ∧ s = stride engine s.op s.before := by
  obtain ⟨before, after, split⟩ := List.append_of_mem member
  obtain ⟨earlier, op, later, rfl, -, rfl, -, -⟩ := strides_split split
  have there : (run engine earlier d).2.InStep engine :=
    run_inStep h fun x member => own x (List.mem_append_left _ member)
  exact ⟨there, own op (List.mem_append_right _ List.mem_cons_self), rfl⟩

theorem strides_blocks (h : d.InStep engine) (own : ∀ op ∈ ops, op.injects = false) :
    (strides engine ops d).flatMap Stride.effects =
      ((strides engine ops d).flatMap Stride.blocks).flatten := by
  induction ops generalizing d with
  | nil => rfl
  | cons op rest ih =>
      have here := own op List.mem_cons_self
      have next := (course engine h.accounted here).inStep h
      rw [strides, List.flatMap_cons, List.flatMap_cons, List.flatten_append,
        stride_blocks h.accounted here,
        ih next fun later member => own later (List.mem_cons_of_mem _ member)]

/-- The delivery of a job that an earlier call posted writes a block of its kind. -/
theorem delivery_block {n : Nat} {host : σ} (made : Dispatcher.new n host = .ok d)
    (own : ∀ op ∈ ops, op.injects = false) {before after : List (Stride σ)} {t : Stride σ}
    (split : strides engine ops d = before ++ t :: after) (fine : ∃ v, t.response = .ok v)
    {x : Delivery σ} (delivered : x ∈ t.deliveries) :
    ∃ s ∈ before, s.Posts x.outcome.id ∧ ∃ job entry, Source s.op s.before job entry ∧
      x.outcome.output = (job.run engine).mapError JobError.ofPanic ∧
      OutcomeBlock x entry x.effects := by
  obtain ⟨start, -, -⟩ := new_inStep engine made
  obtain ⟨s, early, posts⟩ := delivered_posted made own split delivered
  obtain ⟨first, rest, rfl⟩ := List.append_of_mem early
  obtain ⟨job, entry, source, returns⟩ := posts.returns start own
    (by rw [split, List.append_assoc, List.cons_append])
  have later : t ∈ rest ++ t :: after := List.mem_append_right _ List.mem_cons_self
  obtain ⟨outcome, known⟩ := returns t later x delivered rfl
  have output : x.outcome.output = (job.run engine).mapError JobError.ofPanic :=
    congrArg Finished.output outcome
  obtain ⟨there, -, same⟩ := stride_of_mem start own (split ▸ List.mem_append_right _ List.mem_cons_self)
  refine ⟨s, early, posts, job, entry, source, output, outcome_block known ?_ ?_⟩
  · obtain ⟨v, responded⟩ := fine
    have drains : t.op.drains = true := by
      by_contra stays
      rw [Stride.deliveries, deliveries_of_not_drains (Bool.eq_false_iff.mpr stays)] at delivered
      cases delivered
    have drained := step_drained engine drains there.accounted
    have none : panicOf (step engine t.op t.before).1 = none := by
      rw [same] at responded
      change (step engine t.op t.before).1 = _ at responded
      rw [responded]
      rfl
    exact drained.fine none x delivered
  · intro o done
    rw [source.kind]
    exact kindOf_run (output.symm.trans done)

/-- Without panics a run writes its blocks, and nothing else. -/
theorem run_blocks {n : Nat} {host : σ} (made : Dispatcher.new n host = .ok d)
    (own : ∀ op ∈ ops, op.injects = false) (fine : ∀ r ∈ (run engine ops d).1, ∃ v, r = .ok v) :
    Blocks engine (strides engine ops d) (run engine ops d).2.stage.effects := by
  obtain ⟨start, -, empty⟩ := new_inStep engine made
  have responded : ∀ s ∈ strides engine ops d, ∃ v, s.response = .ok v := by
    intro s member
    apply fine
    rw [← strides_response]
    exact List.mem_map.mpr ⟨s, member, rfl⟩
  refine ⟨?_, ?_, ?_, ?_⟩
  · rw [run_effects start own, empty, List.nil_append, strides_blocks start own]
  · intro s member enters
    obtain ⟨there, -, same⟩ := stride_of_mem start own member
    obtain ⟨v, response⟩ := responded s member
    have first : s.response = (step engine s.op s.before).1 := congrArg Stride.response same
    have second : s.after = (step engine s.op s.before).2 := congrArg Stride.after same
    have stepped : step engine s.op s.before = (.ok v, s.after) :=
      Prod.ext (first.symm.trans response) second.symm
    exact entry_block enters there.accounted stepped
  · intro t member
    obtain ⟨there, -, -⟩ := stride_of_mem start own member
    cases drains : t.op.drains with
    | true => exact ⟨_, (step_drained engine drains there.accounted).delivers.queue.1⟩
    | false =>
        rw [Stride.deliveries, deliveries_of_not_drains drains]
        exact ⟨_, rfl⟩
  · intro before t after split x delivered
    exact delivery_block made own split
      (responded t (split ▸ List.mem_append_right _ List.mem_cons_self)) delivered

/-- A blocked image and a document that is not listed: two calls, and two deliveries in one drain. -/
theorem blocked_image_in_blocks :
    let url : Url := ⟨"https://b.example/x.png"⟩
    let live : LiveFrame := ⟨⟨1, 2⟩, ⟨"https://a.example/"⟩⟩
    let engine : Engine := ⟨fun _ => .ok (.blocked ⟨"https://list.example/"⟩)⟩
    let start : Dispatcher Register := { queue := { free := 2 }, stage := { host := ⟨[live]⟩ } }
    let ops : List (Op Register) :=
      [.addObserver 3, .request [] url .image live.id 7, .document [] url live.id, .start 0, .start 1,
        .finish 1, .finish 0, .untilIdle]
    let track := strides engine ops start
    Blocks engine track (run engine ops start).2.stage.effects ∧
      (track.flatMap Stride.blocks).map List.length = [3, 0, 0, 4] := by
  intro url live engine start ops track
  have responses : (run engine ops start).1 =
      [.ok .done, .ok .done, .ok .done, .ok .done, .ok .done, .ok .done, .ok .done,
        .ok (.progress .idle)] := by decide +kernel
  have fine : ∀ r ∈ (run engine ops start).1, ∃ v, r = .ok v := by
    rw [responses]
    simp
  exact ⟨run_blocks (n := 2) rfl (by decide) fine, by decide +kernel⟩

end FilterDispatch.Dispatcher
