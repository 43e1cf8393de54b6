import FilterDispatch.Proofs.Dispatcher.Callbacks

/-!
Reports of ads.  A pass that reports a match takes place in the delivery of the job that found it and
nowhere else, if the frame that the call saw is there once its callback has returned.
-/

namespace FilterDispatch

def Notification.adMatched? : Notification → Option AdMatched
  | .adMatched event => some event
  | _ => none

/-- The reports of one sort, one pass after the other. -/
def reportsOf {α : Type} (sort : Notification → Option α) (effects : List Effect) : List α :=
  (effects.filterMap Effect.pass?).filterMap sort

/-- The matches that are reported, one pass after the other. -/
def adsMatched (effects : List Effect) : List AdMatched :=
  reportsOf Notification.adMatched? effects

theorem reportsOf_flatMap {α β : Type} (sort : Notification → Option β) (f : α → List Effect)
    (xs : List α) : reportsOf sort (xs.flatMap f) = xs.flatMap fun x => reportsOf sort (f x) := by
  simp only [reportsOf, List.filterMap_flatMap]

theorem reportsOf_eq_nil {α : Type} {sort : Notification → Option α} {effects : List Effect}
    (silent : ∀ x ∈ effects, ∀ n, x.pass? = some n → sort n = none) :
    reportsOf sort effects = [] := by
  rw [reportsOf, List.filterMap_eq_nil_iff]
  intro n member
  obtain ⟨x, there, passes⟩ := List.mem_filterMap.mp member
  exact silent x there n passes

/-- What is reported when the outcome of a call's job comes back to a host in `h`: the evaluation has
to decide, the callback to return and the frame that the call saw to be there after that. -/
def Call.matched {σ : Type} [Host σ] (engine : Engine) (c : Call) (sight : Sight) (h : σ) :
    Option AdMatched :=
  match c.question sight, c.entry sight with
  | .classify asked, .resource r =>
    match engine.classify asked with
    | .error _ => none
    | .ok found =>
      match found.subscription?, Host.receive r.callback (.result found.result) h with
      | some subscription, .ok _ after =>
        match Host.resolve r.frame after with
        | .ok (some frame) _ =>
          some
            { url := r.url, result := found.result, ancestors := r.ancestors,
              contentType := r.contentType, frame, subscription }
        | _ => none
      | _, _ => none
  | _, _ => none

variable {σ : Type} [Host σ]

theorem Pending.due_document (url : Url) (frame : FrameId) (out : Except JobError JobOutput) (h : σ) :
    ((Pending.document url frame).due out h).bind Notification.adMatched? = none := by
  have silent (none : (Pending.document url frame).report? out = Option.none) :
      ((Pending.document url frame).due out h).bind Notification.adMatched? = Option.none := by
    rw [due_of_unreported none]
    rfl
  cases out with
  | error e => exact silent rfl
  | ok output =>
      cases output with
      | classified c => exact silent rfl
      | rewritten target => exact silent rfl
      | allowlisted subscription? =>
          cases subscription? with
          | none => exact silent rfl
          | some subscription =>
              simp only [due, replied, reply?, report?, Control.pure_apply, Option.map_some]
              cases Host.resolve frame h with
              | error p k => rfl
              | ok shown k => cases shown <;> rfl

/-- The outcome of its own job makes an entry report what the call's question came to. -/
theorem Call.due_own (engine : Engine) (c : Call) (sight : Sight) (h : σ) :
    ((c.entry sight).due (((c.question sight).job.run engine).mapError JobError.ofPanic) h).bind
      Notification.adMatched? = c.matched engine sight h := by
  have fits := c.fits sight
  have own := c.own sight
  unfold Call.matched
  generalize c.question sight = q at fits ⊢
  generalize c.entry sight = entry at fits own ⊢
  cases q with
  | rewrite snapshot url ancestors =>
      cases entry with
      | resource r => cases fits
      | document url frame => cases own
      | rewrite target callback =>
          rw [Pending.due_of_unreported rfl]
          rfl
  | classify asked =>
      cases entry with
      | document url frame => cases own
      | rewrite target callback => cases fits
      | resource r =>
          simp only [Question.job, Job.run, Job.evaluate, Evaluation.call]
          cases engine.classify asked with
          | error p =>
              rw [Pending.due_of_unreported rfl]
              rfl
          | ok found =>
              simp only [Except.map, Except.mapError, Pending.due, Pending.replied, Pending.reply?,
                Pending.report?]
              cases found.subscription? with
              | none => cases Host.receive r.callback (.result found.result) h <;> rfl
              | some subscription =>
                  cases Host.receive r.callback (.result found.result) h with
                  | error p after => rfl
                  | ok _ after =>
                      simp only [Option.map_some]
                      cases Host.resolve r.frame after with
                      | error p k => rfl
                      | ok shown k => cases shown <;> rfl

theorem Call.matched_result {engine : Engine} {c : Call} {sight : Sight} {h : σ} {event : AdMatched}
    (matched : c.matched engine sight h = some event) :
    (c.question sight).answer engine = .result event.result := by
  unfold Call.matched at matched
  split at matched
  · next asked r question entry =>
      rw [question, Question.answer]
      split at matched
      · cases matched
      · next found classified =>
          rw [classified]
          split at matched
          · split at matched
            · cases matched
              rfl
            · cases matched
          · cases matched
  · cases matched

namespace Dispatcher

variable {engine : Engine} {op : Op σ} {d e : Dispatcher σ} {xs : List (Delivery σ)}
  {r : Except Panic Response} {ops : List (Op σ)} {id : JobId} {job : Job} {entry : Pending}

theorem Course.reportsOf {α : Type} {sort : Notification → Option α}
    (course : Course engine op d xs r e) (popups : ∀ event, sort (.popupMatched event) = none) :
    reportsOf sort (effectsSince d e) = xs.flatMap fun x => FilterDispatch.reportsOf sort x.effects := by
  cases course with
  | @answered c h k mine looked received =>
      rw [effectsSince_eq (Stage.effects_log _ _ d.stage)]
      simp [FilterDispatch.reportsOf, c.inquiries_pass?, Effect.pass?]
  | @posted c sight h mine looked =>
      have grown : ((d.logged (c.inquiries (some sight)) h).posting (c.question sight).job
          (c.entry sight)).stage.effects = d.stage.effects ++ c.inquiries (some sight) :=
        Stage.effects_log _ _ d.stage
      rw [effectsSince_eq grown]
      simp [FilterDispatch.reportsOf, c.inquiries_pass?]
  | @failed c p e mine fails =>
      obtain ⟨new, grown, asking⟩ := fails.keeps.adds
      rw [effectsSince_eq grown]
      apply reportsOf_eq_nil
      intro x member n passes
      rw [(asking x member).1] at passes
      cases passes
  | checked document => rw [effectsSince_same] <;> rfl
  | aside none drains kept =>
      obtain ⟨new, grown, aside⟩ := kept.adds
      rw [effectsSince_eq grown]
      apply reportsOf_eq_nil
      intro x member n passes
      obtain ⟨event, rfl⟩ := (aside x member).2 n passes
      exact popups event
  | worked none drains accounted ids moved carries => rw [effectsSince_same] <;> rfl
  | drained none drains delivers => rw [effectsSince_eq delivers.effects, reportsOf_flatMap]

theorem Course.adsMatched (course : Course engine op d xs r e) :
    adsMatched (effectsSince d e) = xs.flatMap fun x => FilterDispatch.adsMatched x.effects :=
  course.reportsOf fun _ => rfl

theorem Course.holds (course : Course engine op d xs r e) (h : d.InStep engine)
    (held : d.Holds engine id job entry) :
    (∀ x ∈ xs, x.outcome.id = id →
      x.outcome = ⟨id, (job.run engine).mapError JobError.ofPanic⟩ ∧
        x.before.pending.lookup id = some entry) ∧
      (id ∉ xs.map (·.outcome.id) → e.Holds engine id job entry) := by
  have idle {e : Dispatcher σ} (still : e.Holds engine id job entry) :
      (∀ x ∈ ([] : List (Delivery σ)), x.outcome.id = id →
        x.outcome = ⟨id, (job.run engine).mapError JobError.ofPanic⟩ ∧
          x.before.pending.lookup id = some entry) ∧
        (id ∉ ([] : List (Delivery σ)).map (·.outcome.id) → e.Holds engine id job entry) :=
    ⟨by simp, fun _ => still⟩
  have same {P : Effect → Prop} {e : Dispatcher σ} (keeps : Keeps P d e) :
      e.Holds engine id job entry :=
    ⟨keeps.pending ▸ held.kept, keeps.queue ▸ held.carried⟩
  cases course with
  | answered call looked received => exact idle ⟨held.kept, held.carried⟩
  | posted call looked => exact idle ⟨List.mem_append_left _ held.kept, held.carried.post _⟩
  | failed call fails => exact idle (same fails.keeps)
  | checked => exact idle ⟨List.mem_append_left _ held.kept, held.carried.post _⟩
  | aside call drains keeps => exact idle (same keeps)
  | worked call drains accounted ids moved carries =>
      exact idle ⟨held.kept, carries id job held.carried⟩
  | drained call drains delivers => exact delivers.holds h held

/-- A job comes from a call with a callback or from a document check, with an entry of its kind. -/
inductive Source (op : Op σ) (d : Dispatcher σ) : Job → Pending → Prop
  | call {c sight h} : op.call? = some c → c.look d.stage.host = .ok (some sight) h →
      Source op d (c.question sight).job (c.entry sight)
  | document {snapshot url frame} : op = .document snapshot url frame →
      Source op d (.allowlist snapshot url) (.document url frame)

theorem Course.source (course : Course engine op d xs r e) (accounted : d.queue.Accounted)
    (absent : id ∉ d.queue.outstanding) (there : id ∈ e.queue.outstanding) :
    ∃ job entry, Source op d job entry ∧ e.Holds engine id job entry := by
  have posted {job : Job} {entry : Pending} (new : List Effect) (k : σ)
      (there : id ∈ ((d.logged new k).posting job entry).queue.outstanding) :
      ((d.logged new k).posting job entry).Holds engine id job entry := by
    rw [(posting_outstanding accounted id).mp ⟨absent, there⟩]
    exact ⟨List.mem_append_right _ (List.mem_singleton_self _),
      WorkQueue.carries_post _ d.queue job⟩
  have same {P : Effect → Prop} {e : Dispatcher σ} (keeps : Keeps P d e)
      (there : id ∈ e.queue.outstanding) : False :=
    absent (keeps.queue ▸ there)
  cases course with
  | answered mine looked received => exact absurd there absent
  | posted mine looked => exact ⟨_, _, .call mine looked, posted _ _ there⟩
  | failed mine fails => exact (same fails.keeps there).elim
  | checked document =>
      exact ⟨_, _, .document document, posted [] d.stage.host there⟩
  | aside none drains keeps => exact (same keeps there).elim
  | worked none drains accounted ids moved carries => exact absurd (moved.mem_iff.mpr there) absent
  | drained none drains delivers =>
      exact absurd (delivers.outstanding.1.mem_iff.mpr (List.mem_append_right _ there)) absent

theorem run_posted (there : id ∈ (run engine ops d).2.queue.outstanding) :
    id ∈ d.queue.outstanding ∨ ∃ s ∈ strides engine ops d, s.Posts id := by
  induction ops generalizing d with
  | nil => exact .inl there
  | cons op rest ih =>
      rcases ih there with early | ⟨s, member, posts⟩
      · by_cases before : id ∈ d.queue.outstanding
        · exact .inl before
        · exact .inr ⟨stride engine op d, List.mem_cons_self, before, early⟩
      · exact .inr ⟨s, List.mem_cons_of_mem _ member, posts⟩

theorem Spent.never_delivered (h : d.InStep engine) (own : ∀ op ∈ ops, op.injects = false)
    (spent : Spent id d) : ∀ t ∈ strides engine ops d, id ∉ t.deliveries.map (·.outcome.id) := by
  intro t member delivered
  obtain ⟨there, here⟩ := stride_course h own member
  exact (spent_run h own spent).2 t member ((here.takes_iff there id).mpr delivered)

theorem run_holds (h : d.InStep engine) (own : ∀ op ∈ ops, op.injects = false)
    (held : d.Holds engine id job entry) :
    ∀ t ∈ strides engine ops d, ∀ x ∈ t.deliveries, x.outcome.id = id →
      x.outcome = ⟨id, (job.run engine).mapError JobError.ofPanic⟩ ∧
        x.before.pending.lookup id = some entry := by
  induction ops generalizing d with
  | nil => simp [strides]
  | cons op rest ih =>
      have here := course engine h.accounted (own op List.mem_cons_self)
      have further := here.inStep h
      have own' : ∀ later ∈ rest, later.injects = false :=
        fun later member => own later (List.mem_cons_of_mem _ member)
      obtain ⟨now, still⟩ := here.holds h held
      intro t member x delivered same
      rcases List.mem_cons.mp member with rfl | later
      · exact now x delivered same
      · by_cases present : id ∈ (op.deliveries d).map (·.outcome.id)
        · have never := (here.delivered h present).2.never_delivered further own' t later
          exact absurd (List.mem_map.mpr ⟨x, delivered, same⟩) never
        · exact ih further own' (still present) t later x delivered same

theorem run_delivers_once (h : d.InStep engine) (own : ∀ op ∈ ops, op.injects = false) :
    ((strides engine ops d).flatMap fun t => t.deliveries.map (·.outcome.id)).Nodup := by
  induction ops generalizing d with
  | nil => exact List.nodup_nil
  | cons op rest ih =>
      have here := course engine h.accounted (own op List.mem_cons_self)
      have further := here.inStep h
      have own' : ∀ later ∈ rest, later.injects = false :=
        fun later member => own later (List.mem_cons_of_mem _ member)
      rw [strides, List.flatMap_cons, List.nodup_append]
      refine ⟨here.delivered_once h, ih further own', ?_⟩
      rintro id now other later rfl
      obtain ⟨t, member, delivered⟩ := List.mem_flatMap.mp later
      exact (here.delivered h now).2.never_delivered further own' t member delivered

/-- The match that the delivery of a stride's job reports, if it begins with the host in `h`. -/
def Stride.matched (engine : Engine) (s : Stride σ) (h : σ) : Option AdMatched :=
  match s.op.call? with
  | none => none
  | some c =>
    match c.look s.before.stage.host with
    | .ok (some sight) _ => c.matched engine sight h
    | _ => none

theorem Source.due {s : Stride σ} (source : Source s.op s.before job entry) (h : σ) :
    (entry.due ((job.run engine).mapError JobError.ofPanic) h).bind Notification.adMatched? =
      s.matched engine h := by
  unfold Stride.matched
  cases source with
  | call mine looked =>
      simp only [mine, looked]
      exact Call.due_own engine _ _ h
  | document document =>
      rw [document]
      exact Pending.due_document _ _ _ h

/-- Every report of a match in a run, and every delivery without one. -/
structure Reports (engine : Engine) (track : List (Stride σ)) : Prop where
  within : ∀ t ∈ track, adsMatched t.effects = t.deliveries.flatMap fun x => adsMatched x.effects
  posted : ∀ before t after, track = before ++ t :: after → ∀ x ∈ t.deliveries,
    ∃ s ∈ before, s.Posts x.outcome.id
  once : (track.flatMap fun t => t.deliveries.map (·.outcome.id)).Nodup
  exactly : ∀ before s after id, track = before ++ s :: after → s.Posts id →
    ∀ t ∈ after, ∀ x ∈ t.deliveries, x.outcome.id = id →
      adsMatched x.effects = (s.matched engine x.before.stage.host).toList
  received : ∀ before s after id c, track = before ++ s :: after → s.Posts id →
    s.op.call? = some c → ∀ t ∈ after, ∀ x ∈ t.deliveries, x.outcome.id = id →
      ∀ event ∈ adsMatched x.effects, answersTo c.callback x.effects = [.result event.result]

theorem Stride.Posts.returns {before after : List (Stride σ)} {s : Stride σ}
    (posts : s.Posts id) (h : d.InStep engine) (own : ∀ op ∈ ops, op.injects = false)
    (split : strides engine ops d = before ++ s :: after) :
    ∃ job entry, Source s.op s.before job entry ∧
      ∀ t ∈ after, ∀ x ∈ t.deliveries, x.outcome.id = id →
        x.outcome = ⟨id, (job.run engine).mapError JobError.ofPanic⟩ ∧
          x.before.pending.lookup id = some entry := by
  obtain ⟨earlier, later, rfl, -, -, rfl, -, there, here⟩ := stride_of_split h own split
  obtain ⟨job, entry, source, held⟩ := here.source there.accounted posts.1 posts.2
  have own' : ∀ x ∈ later, x.injects = false := fun x member =>
    own x (List.mem_append_right _ (List.mem_cons_of_mem _ member))
  exact ⟨job, entry, source, run_holds (here.inStep there) own' held⟩

/-- The delivery of a job that a stride posted does what the job and its entry make of it. -/
theorem Stride.Posts.delivery {before after : List (Stride σ)} {s : Stride σ}
    (posts : s.Posts id) (h : d.InStep engine) (own : ∀ op ∈ ops, op.injects = false)
    (split : strides engine ops d = before ++ s :: after) :
    ∃ job entry, Source s.op s.before job entry ∧
      ∀ t ∈ after, ∀ x ∈ t.deliveries, x.outcome.id = id →
        x.effects.filterMap Effect.answer? =
          (entry.reply? ((job.run engine).mapError JobError.ofPanic)).toList ∧
        x.effects.filterMap Effect.pass? =
          (entry.due ((job.run engine).mapError JobError.ofPanic) x.before.stage.host).toList := by
  obtain ⟨job, entry, source, returns⟩ := posts.returns h own split
  refine ⟨job, entry, source, ?_⟩
  intro t member x delivered same
  obtain ⟨outcome, known⟩ := returns t member x delivered same
  obtain ⟨there, course⟩ := stride_course h own
    (split ▸ List.mem_append_right _ (List.mem_cons_of_mem _ member))
  obtain ⟨other, found, answers, passes⟩ := course.each there x delivered
  rw [same, known] at found
  cases found
  rw [outcome] at answers passes
  exact ⟨answers, passes⟩

theorem delivered_posted {n : Nat} {host : σ} (made : Dispatcher.new n host = .ok d)
    (own : ∀ op ∈ ops, op.injects = false) {before after : List (Stride σ)} {t : Stride σ}
    (split : strides engine ops d = before ++ t :: after) {x : Delivery σ}
    (delivered : x ∈ t.deliveries) : ∃ s ∈ before, s.Posts x.outcome.id := by
  obtain ⟨start, empty, -⟩ := new_inStep engine made
  obtain ⟨earlier, later, rfl, rfl, origin, rfl, -, there, here⟩ := stride_of_split start own split
  have takes := (here.takes_iff there x.outcome.id).mpr (List.mem_map.mpr ⟨x, delivered, rfl⟩)
  rw [origin] at takes
  rcases run_posted takes.1 with early | posted
  · have keys := start.keys
    rw [empty] at keys
    rw [keys.symm.eq_nil] at early
    cases early
  · exact posted

theorem ads_reported {n : Nat} {host : σ} (made : Dispatcher.new n host = .ok d)
    (own : ∀ op ∈ ops, op.injects = false) : Reports engine (strides engine ops d) := by
  obtain ⟨start, -, -⟩ := new_inStep engine made
  have exactly : ∀ before s after id, strides engine ops d = before ++ s :: after → s.Posts id →
      ∀ t ∈ after, ∀ x ∈ t.deliveries, x.outcome.id = id →
        adsMatched x.effects = (s.matched engine x.before.stage.host).toList := by
    intro before s after id split posts t member x delivered same
    obtain ⟨job, entry, source, all⟩ := posts.delivery start own split
    rw [adsMatched, reportsOf, (all t member x delivered same).2, ← source.due, Option.toList_bind,
      List.filterMap_eq_flatMap_toList]
    rfl
  refine ⟨?_, ?_, run_delivers_once start own, exactly, ?_⟩
  · intro t member
    obtain ⟨there, course⟩ := stride_course start own member
    exact course.adsMatched
  · intro before t after split x delivered
    exact delivered_posted made own split delivered
  · intro before s after id c split posts mine t member x delivered same event reported
    obtain ⟨job, entry, source, all⟩ := posts.delivery start own split
    rw [exactly before s after id split posts t member x delivered same] at reported
    cases source with
    | document document =>
        rw [document] at mine
        cases mine
    | @call other sight h found looked =>
        cases mine.symm.trans found
        rw [answersTo_of_reply (all t member x delivered same).1,
          Pending.reply?_own engine (c.fits sight) (c.own sight)]
        simp only [Stride.matched, mine, looked, Option.mem_toList] at reported
        simp [Option.filter, Call.matched_result reported]

/-- A blocked response is reported when its outcome is taken, with the frame that is there then. -/
theorem blocked_response_reported :
    let url : Url := ⟨"https://b.example/x.png"⟩
    let list : Url := ⟨"https://list.example/"⟩
    let live : LiveFrame := ⟨⟨1, 2⟩, ⟨"https://a.example/"⟩⟩
    let moved : LiveFrame := ⟨⟨1, 2⟩, ⟨"https://c.example/"⟩⟩
    let engine : Engine := ⟨fun _ => .ok (.blocked list)⟩
    let start : Dispatcher Register := { queue := { free := 1 }, stage := { host := ⟨[live]⟩ } }
    let ops : List (Op Register) :=
      [.response [] url .image live.id {} 7, .changeHost fun _ => ⟨[moved]⟩, .start 0, .finish 0,
        .next]
    Reports engine (strides engine ops start) ∧
      ((strides engine ops start).flatMap fun t => adsMatched t.effects) =
        [⟨url, .blockRule, [live.url], .image, moved, list⟩] := by
  intro url list live moved engine start ops
  have own : ∀ op ∈ ops, op.injects = false := by decide
  exact ⟨ads_reported (n := 1) rfl own, by decide⟩

end Dispatcher

end FilterDispatch
