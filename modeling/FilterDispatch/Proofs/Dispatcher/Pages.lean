import FilterDispatch.Proofs.Dispatcher.Blocks
import FilterDispatch.Proofs.Snapshot

/-!
Reports of pages.  A document check only posts a job.  A pass that reports an allowed page takes place
in the delivery of such a job and nowhere else, if all collections of the snapshot list the document
and the frame that the check named is there then.
-/

namespace FilterDispatch

def Notification.pageAllowed? : Notification → Option PageAllowed
  | .pageAllowed event => some event
  | _ => none

/-- The allowed pages that are reported, one pass after the other. -/
def pagesAllowed (effects : List Effect) : List PageAllowed :=
  reportsOf Notification.pageAllowed? effects

variable {σ : Type} [Host σ]

/-- What a document check reports when its outcome comes back to a host in `h`. -/
structure Permits (snapshot : Snapshot) (url : Url) (frame : FrameId) (h : σ) (event : PageAllowed) :
    Prop where
  page : event.url = url
  listed : snapshot.Allowlists url event.subscription
  alive : ∃ k, Host.resolve frame h = .ok (some event.frame) k

namespace Pending

variable {entry : Pending} {out : Except JobError JobOutput} {h : σ} {n : Notification}

theorem due_eq_some : entry.due out h = some n ↔
    ∃ after frame event live k, entry.replied out h = .ok () after ∧
      entry.report? out = some (frame, event) ∧ Host.resolve frame after = .ok (some live) k ∧
      event live = n := by
  unfold due
  cases entry.replied out h with
  | error p after => simp
  | ok _ after =>
      cases entry.report? out with
      | none => simp
      | some due =>
          obtain ⟨frame, event⟩ := due
          cases resolved : Host.resolve frame after with
          | error p k => simp [resolved]
          | ok shown k => cases shown <;> simp [resolved]

theorem document_of_due {event : PageAllowed} (due : entry.due out h = some (.pageAllowed event)) :
    ∃ url frame, entry = .document url frame := by
  obtain ⟨after, frame, told, live, k, -, reports, -, same⟩ := due_eq_some.mp due
  rcases Dispatcher.report?_cases reports with
    ⟨r, c, subscription, rfl, rfl, decided, rfl, rfl⟩ | ⟨url, subscription, rfl, rfl, rfl⟩
  · cases same
  · exact ⟨url, frame, rfl⟩

/-- A subscription comes out of a document check if all collections list the document, and none if
one does not or panics. -/
theorem allowlist_eq_some {engine : Engine} {snapshot : Snapshot} {url subscription : Url} :
    ((Job.allowlist snapshot url).run engine).mapError JobError.ofPanic =
      .ok (.allowlisted (some subscription)) ↔ snapshot.Allowlists url subscription := by
  rw [← Snapshot.allowlisted_iff]
  simp only [Job.run, Job.evaluate, Evaluation.map, Evaluation.mapCalls]
  cases (snapshot.documentAllowlistedBy url).outcome with
  | error p => simp [Except.map, Except.mapError]
  | ok found => simp [Except.map, Except.mapError]

theorem due_check (engine : Engine) (snapshot : Snapshot) (url : Url) (frame : FrameId) (h : σ) :
    (Pending.document url frame).due
        (((Job.allowlist snapshot url).run engine).mapError JobError.ofPanic) h = some n ↔
      ∃ event, n = .pageAllowed event ∧ Permits snapshot url frame h event := by
  rw [due_eq_some]
  constructor
  · rintro ⟨after, other, told, live, k, replied, reports, resolved, rfl⟩
    rcases Dispatcher.report?_cases reports with
      ⟨r, c, subscription, own, -, -, -, -⟩ | ⟨page, subscription, own, output, rfl⟩
    · cases own
    · cases own
      cases replied
      exact ⟨_, rfl, rfl, allowlist_eq_some.mp output, k, resolved⟩
  · rintro ⟨⟨page, live, subscription⟩, rfl, rfl, listed, k, resolved⟩
    rw [allowlist_eq_some.mpr listed]
    exact ⟨h, frame, _, live, k, rfl, rfl, resolved, rfl⟩

end Pending

namespace Dispatcher

variable {engine : Engine} {d : Dispatcher σ} {ops : List (Op σ)} {job : Job} {entry : Pending}

theorem Source.document_check {op : Op σ} {url : Url} {frame : FrameId}
    (source : Source op d job (.document url frame)) :
    ∃ snapshot, op = .document snapshot url frame := by
  generalize same : Pending.document url frame = entry at source
  cases source with
  | @call c sight h mine looked =>
      have own := c.own sight
      rw [← same] at own
      cases own
  | document document =>
      cases same
      exact ⟨_, document⟩

/-- A check itself posts its job and does nothing else: the control sequence is as before. -/
structure Stride.ChecksOnly (s : Stride σ) (snapshot : Snapshot) (url : Url) (frame : FrameId) :
    Prop where
  done : s.response = .ok .done
  posted : s.after = s.before.posting (.allowlist snapshot url) (.document url frame)
  silent : s.effects = []
  one : ∀ id, s.Posts id ↔ id = s.before.queue.nextId

/-- The delivery of a check's outcome answers nobody and reports what is permitted then. -/
structure Delivery.Decides (x : Delivery σ) (snapshot : Snapshot) (url : Url) (frame : FrameId) :
    Prop where
  unanswered : x.effects.filterMap Effect.answer? = []
  reported : ∀ n, x.effects.filterMap Effect.pass? = [n] ↔
    ∃ event, n = .pageAllowed event ∧ Permits snapshot url frame x.before.stage.host event
  silent : x.effects.filterMap Effect.pass? = [] ↔
    ∀ event, ¬ Permits snapshot url frame x.before.stage.host event

/-- Every document check of a run and every report of an allowed page. -/
structure PageReports (engine : Engine) (track : List (Stride σ)) : Prop where
  check : ∀ s ∈ track, ∀ snapshot url frame, s.op = .document snapshot url frame →
    s.ChecksOnly snapshot url frame
  within : ∀ t ∈ track,
    pagesAllowed t.effects = t.deliveries.flatMap fun x => pagesAllowed x.effects
  once : (track.flatMap fun t => t.deliveries.map (·.outcome.id)).Nodup
  exactly : ∀ before s after id snapshot url frame, track = before ++ s :: after → s.Posts id →
    s.op = .document snapshot url frame → ∀ t ∈ after, ∀ x ∈ t.deliveries, x.outcome.id = id →
      x.Decides snapshot url frame
  caused : ∀ before t after, track = before ++ t :: after → ∀ x ∈ t.deliveries,
    pagesAllowed x.effects ≠ [] → ∃ s ∈ before, s.Posts x.outcome.id ∧
      ∃ snapshot url frame, s.op = .document snapshot url frame

theorem checks_only {s : Stride σ} (accounted : s.before.queue.Accounted)
    (same : s = stride engine s.op s.before) {snapshot : Snapshot} {url : Url} {frame : FrameId}
    (document : s.op = .document snapshot url frame) : s.ChecksOnly snapshot url frame := by
  rw [document] at same
  have after : s.after = s.before.posting (.allowlist snapshot url) (.document url frame) :=
    congrArg Stride.after same
  have stage : s.after.stage = s.before.stage := by
    rw [after]
    rfl
  refine ⟨congrArg Stride.response same, after, effectsSince_same stage, fun id => ?_⟩
  rw [Stride.Posts, after]
  exact posting_outstanding accounted id

theorem Stride.Posts.checked {id : JobId} {before after : List (Stride σ)} {s : Stride σ}
    {snapshot : Snapshot} {url : Url} {frame : FrameId} (posts : s.Posts id) (h : d.InStep engine)
    (own : ∀ op ∈ ops, op.injects = false) (split : strides engine ops d = before ++ s :: after)
    (document : s.op = .document snapshot url frame) :
    ∀ t ∈ after, ∀ x ∈ t.deliveries, x.outcome.id = id → x.Decides snapshot url frame := by
  intro t member x delivered same
  obtain ⟨job, entry, source, all⟩ := posts.delivery h own split
  obtain ⟨answers, passes⟩ := all t member x delivered same
  rw [document] at source
  cases source with
  | call mine looked => cases mine
  | document other =>
      cases other
      have due := fun n => Pending.due_check (n := n) engine snapshot url frame x.before.stage.host
      refine ⟨answers, fun n => ?_, ?_⟩
      · rw [passes, ← due]
        exact Option.toList_eq_singleton_iff
      · rw [passes, Option.toList_eq_nil_iff, Option.eq_none_iff_forall_ne_some]
        constructor
        · exact fun none event permits => none _ ((due _).mpr ⟨event, rfl, permits⟩)
        · intro never n reports
          obtain ⟨event, -, permits⟩ := (due n).mp reports
          exact never event permits

theorem pages_caused {n : Nat} {host : σ} (made : Dispatcher.new n host = .ok d)
    (own : ∀ op ∈ ops, op.injects = false) {before after : List (Stride σ)} {t : Stride σ}
    (split : strides engine ops d = before ++ t :: after) {x : Delivery σ}
    (delivered : x ∈ t.deliveries) (reports : pagesAllowed x.effects ≠ []) :
    ∃ s ∈ before, s.Posts x.outcome.id ∧
      ∃ snapshot url frame, s.op = .document snapshot url frame := by
  obtain ⟨start, -, -⟩ := new_inStep engine made
  obtain ⟨s, early, posts⟩ := delivered_posted made own split delivered
  obtain ⟨first, rest, rfl⟩ := List.append_of_mem early
  obtain ⟨job, entry, source, all⟩ := posts.delivery start own
    (by rw [split, List.append_assoc, List.cons_append])
  have later : t ∈ rest ++ t :: after := List.mem_append_right _ List.mem_cons_self
  obtain ⟨-, passes⟩ := all t later x delivered rfl
  obtain ⟨event, reported⟩ := List.exists_mem_of_ne_nil _ reports
  rw [pagesAllowed, reportsOf, passes] at reported
  obtain ⟨n, due, sort⟩ := List.mem_filterMap.mp reported
  have kind : n = .pageAllowed event := by
    cases n with
    | pageAllowed other => rw [Option.some.inj sort]
    | _ => cases sort
  subst kind
  obtain ⟨url, frame, rfl⟩ := Pending.document_of_due (Option.mem_toList.mp due)
  obtain ⟨snapshot, document⟩ := source.document_check
  exact ⟨s, early, posts, snapshot, url, frame, document⟩

theorem pages_reported {n : Nat} {host : σ} (made : Dispatcher.new n host = .ok d)
    (own : ∀ op ∈ ops, op.injects = false) : PageReports engine (strides engine ops d) := by
  obtain ⟨start, -, -⟩ := new_inStep engine made
  refine ⟨?check, ?within, run_delivers_once start own,
    fun _ _ _ _ _ _ _ split posts document => posts.checked start own split document,
    fun _ _ _ split _ delivered => pages_caused made own split delivered⟩
  case check =>
    intro s member snapshot url frame document
    obtain ⟨there, -, same⟩ := stride_of_mem start own member
    exact checks_only there.accounted same document
  case within =>
    intro t member
    obtain ⟨there, course⟩ := stride_course start own member
    exact course.reportsOf fun _ => rfl

/-- A check that names a frame before it is there, and one whose frame is gone by the time its outcome
comes back. -/
theorem late_frame_allowed :
    let url : Url := ⟨"https://a.example/"⟩
    let list : Url := ⟨"https://list.example/"⟩
    let snapshot : Snapshot := [⟨0, fun _ => .ok (some url)⟩, ⟨1, fun _ => .ok (some list)⟩]
    let live : LiveFrame := ⟨⟨1, 2⟩, url⟩
    let gone : LiveFrame := ⟨⟨3, 4⟩, url⟩
    let engine : Engine := ⟨fun _ => .ok .ignored⟩
    let start : Dispatcher Register := { queue := { free := 2 }, stage := { host := ⟨[gone]⟩ } }
    let ops : List (Op Register) :=
      [.document snapshot url live.id, .document snapshot url gone.id, .changeHost fun _ => ⟨[live]⟩,
        .start 0, .start 1, .finish 1, .finish 0, .ready]
    PageReports engine (strides engine ops start) ∧
      ((strides engine ops start).flatMap fun t => pagesAllowed t.effects) =
        [⟨url, live, list⟩] := by
  intro url list snapshot live gone engine start ops
  have own : ∀ op ∈ ops, op.injects = false := by decide
  exact ⟨pages_reported (n := 2) rfl own, by decide +kernel⟩

end Dispatcher

end FilterDispatch
