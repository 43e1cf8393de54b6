import FilterDispatch.Proofs.Dispatcher.Deliveries
import FilterDispatch.Proofs.Dispatcher.Popups

/-!
Runs.  An operation goes one of a few courses, also when it ends in a panic, and each of them keeps
jobs and entries in step.  A run is the list of its strides.
-/

namespace FilterDispatch.Dispatcher

namespace Op

variable {σ : Type}

def call? : Op σ → Option Call
  | .request snapshot url contentType frame callback =>
    some (.request snapshot url contentType frame callback)
  | .socketUpgrade snapshot url frame callback =>
    some (.request snapshot url .websocket frame callback)
  | .response snapshot url contentType frame headers callback =>
    some (.response snapshot url contentType frame headers callback)
  | .rewrite snapshot url frame callback => some (.rewrite snapshot url frame callback)
  | _ => none

def callback? (op : Op σ) : Option CallId :=
  op.call?.map (·.callback)

/-- The assertion that a call fails. -/
def refusal? : Op σ → Option Panic
  | .request _ url contentType _ _ =>
    if contentType = .websocket ∨ url.isWebSocket then some wantsSocketUpgrade else none
  | .socketUpgrade _ url _ _ => if !url.isWebSocket then some (noSocketUpgrade url) else none
  | _ => none

/-- Whether an outcome is handed in that does not come from the queue. -/
def injects : Op σ → Bool
  | .complete _ => true
  | _ => false

def drains : Op σ → Bool
  | .next | .ready | .untilIdle => true
  | _ => false

def posts : Op σ → Bool
  | .request .. | .socketUpgrade .. | .response .. | .document .. | .rewrite .. => true
  | _ => false

def deliveries [Host σ] (op : Op σ) (d : Dispatcher σ) : List (Delivery σ) :=
  match op with
  | .next => Dispatcher.deliveries 1 d
  | .ready => Dispatcher.deliveries d.queue.finished.length d
  | .untilIdle => Dispatcher.deliveries (d.queue.finished.length + 1) d
  | _ => []

end Op

variable {σ : Type} [Host σ]

/-- What may happen beside calls and deliveries: no callback is invoked, and observers are told of
popups only. -/
def Aside (x : Effect) : Prop :=
  x.answer? = none ∧ ∀ n, x.pass? = some n → ∃ event, n = .popupMatched event

/-- The courses of an operation: its deliveries, what it came to and where it leads. -/
inductive Course (engine : Engine) (op : Op σ) (d : Dispatcher σ) :
    List (Delivery σ) → Except Panic Response → Dispatcher σ → Prop
  | answered {c h k} : op.call? = some c → c.look d.stage.host = .ok none h →
      Host.receive c.callback c.denied h = .ok () k →
      Course engine op d [] (.ok .done)
        (d.logged (c.inquiries none ++ [.callback c.callback c.denied]) k)
  | posted {c sight h} : op.call? = some c → c.look d.stage.host = .ok (some sight) h →
      Course engine op d [] (.ok .done)
        ((d.logged (c.inquiries (some sight)) h).posting (c.question sight).job (c.entry sight))
  | failed {c p e} : op.call? = some c → Fails c d e → Course engine op d [] (.error p) e
  | checked {snapshot url frame} : op = .document snapshot url frame →
      Course engine op d [] (.ok .done)
        (d.posting (.allowlist snapshot url) (.document url frame))
  | aside {r e} : op.call? = none → op.drains = false → Keeps Aside d e →
      Course engine op d [] r e
  | worked {queue} : op.call? = none → op.drains = false → queue.Accounted →
      queue.nextId = d.queue.nextId → d.queue.outstanding.Perm queue.outstanding →
      (∀ id job, d.queue.Carries (Job.run engine) id job →
        queue.Carries (Job.run engine) id job) →
      Course engine op d [] (.ok .done) { d with queue }
  | drained {xs r e} : op.call? = none → op.drains = true → Delivers d xs e →
      Course engine op d xs r e

theorem perform_call (engine : Engine) {op : Op σ} {c : Call} (call : op.call? = some c)
    (d : Dispatcher σ) :
    perform engine op d = match op.refusal? with
      | some p => .error p d
      | none => (do place c; return .done : Control (Dispatcher σ) Response) d := by
  cases op with
  | request snapshot url contentType frame callback =>
      cases call
      simp only [perform, request, classifyRequest_eq, Op.refusal?]
      by_cases refused : contentType = .websocket ∨ url.isWebSocket
      · rw [if_pos refused, if_pos refused]
        rfl
      · rw [if_neg refused, if_neg refused]
  | socketUpgrade snapshot url frame callback =>
      cases call
      simp only [perform, socketUpgrade, classifyRequest_eq, Op.refusal?]
      by_cases refused : (!url.isWebSocket) = true
      · rw [if_pos refused, if_pos refused]
        rfl
      · rw [if_neg refused, if_neg refused]
  | response snapshot url contentType frame headers callback =>
      cases call
      simp only [perform, response_eq, Op.refusal?]
  | rewrite snapshot url frame callback =>
      cases call
      simp only [perform, rewrite_eq, Op.refusal?]
  | _ => cases call

theorem popup_keeps (snapshot : Snapshot) (url : Url) (frame : FrameId) :
    Control.Along (Keeps Aside) (popup snapshot url frame : Control (Dispatcher σ) MatchResult) := by
  intro d
  refine (popup_writes snapshot url frame d).mono ?_
  intro x written
  cases x with
  | callback call a => cases written
  | pass n =>
      cases n with
      | popupMatched event => exact ⟨rfl, fun n same => ⟨event, (Option.some.inj same).symm⟩⟩
      | _ => cases written
  | _ => exact ⟨rfl, fun n passed => nomatch passed⟩

theorem step_of_ok {engine : Engine} {op : Op σ} {d e : Dispatcher σ} {r : Response}
    (performed : perform engine op d = .ok r e) : step engine op d = (.ok r, e) := by
  simp only [step, performed]

theorem step_of_error {engine : Engine} {op : Op σ} {d e : Dispatcher σ} {p : Panic}
    (performed : perform engine op d = .error p e) : step engine op d = (.error p, e) := by
  simp only [step, performed]

theorem step_eq_error {engine : Engine} {op : Op σ} {d e : Dispatcher σ} {p : Panic} :
    step engine op d = (.error p, e) ↔ perform engine op d = .error p e := by
  unfold step
  cases perform engine op d with
  | ok r f => simp
  | error q f => simp

theorem step_final (engine : Engine) (op : Op σ) (d : Dispatcher σ) :
    (step engine op d).2 = Control.final (perform engine op) d := by
  unfold step Control.final
  cases perform engine op d with
  | ok r e => rfl
  | error p e => rfl

theorem step_map {α : Type} {engine : Engine} {op : Op σ} {m : Control (Dispatcher σ) α}
    {f : α → Response} (same : perform engine op = (do return f (← m))) (d : Dispatcher σ) :
    (step engine op d).2 = Control.final m d := by
  rw [step_final, same, Control.final_map]

theorem step_popup (engine : Engine) (snapshot : Snapshot) (url : Url) (frame : FrameId)
    (d : Dispatcher σ) : (step engine (.popup snapshot url frame) d).2 =
      Control.final (popup snapshot url frame) d :=
  step_map (m := popup snapshot url frame) (f := Response.result) rfl d

/-- To go on is to take the first outcome and to deliver it. -/
theorem step_next (engine : Engine) {d : Dispatcher σ} (accounted : d.queue.Accounted)
    {f : Finished JobOutput} {queue : WorkQueue Job JobOutput}
    (found : d.queue.tryNext = some (f, queue)) :
    (step engine .next d).2 = Control.final (complete f) { d with queue } := by
  rw [step_map (m := processNext) (f := Response.progress) rfl,
    Control.final_congr (processNext_of_some accounted found)]
  exact Control.final_map (complete f) (fun _ => Progress.delivered) _

def panicOf : Except Panic Response → Option Panic
  | .ok _ => none
  | .error p => some p

theorem step_ending (engine : Engine) (op : Op σ) (d : Dispatcher σ) :
    (panicOf (step engine op d).1, (step engine op d).2) =
      Control.ending (perform engine op) d := by
  unfold step Control.ending
  cases perform engine op d with
  | ok r e => rfl
  | error p e => rfl

/-- An operation that drains delivers what there is, up to its panic. -/
theorem step_drained (engine : Engine) {op : Op σ} (drains : op.drains = true) {d : Dispatcher σ}
    (accounted : d.queue.Accounted) :
    Drained d (op.deliveries d) (panicOf (step engine op d).1) (step engine op d).2 := by
  have ending := step_ending engine op d
  have mapped {α : Type} {m : Control (Dispatcher σ) α} {f : α → Response}
      {xs : List (Delivery σ)} (same : perform engine op = (do return f (← m)))
      (drained : Drained d xs (Control.ending m d).1 (Control.ending m d).2) :
      Drained d xs (panicOf (step engine op d).1) (step engine op d).2 := by
    rw [same, Control.ending_map] at ending
    rwa [← ending] at drained
  cases op with
  | next => exact mapped (m := processNext) (f := .progress) rfl (processNext_drained d accounted)
  | ready =>
      exact mapped (m := processReady) (f := .delivered) rfl (processAtMost_drained _ d accounted)
  | untilIdle =>
      exact mapped (m := runUntilIdle) (f := .progress) rfl (runFor_drained _ d accounted)
  | _ => cases drains

theorem deliveries_of_not_drains {op : Op σ} (stays : op.drains = false) (d : Dispatcher σ) :
    op.deliveries d = [] := by
  cases op with
  | next => cases stays
  | ready => cases stays
  | untilIdle => cases stays
  | _ => rfl

omit [Host σ] in
theorem start_stage (id : JobId) (d : Dispatcher σ) : (d.start id).stage = d.stage := by
  unfold Dispatcher.start
  cases d.queue.start? id with
  | none => rfl
  | some queue => rfl

omit [Host σ] in
theorem finish_stage (engine : Engine) (id : JobId) (d : Dispatcher σ) :
    (d.finish engine id).stage = d.stage := by
  unfold Dispatcher.finish
  cases d.queue.finish? (Job.run engine) id with
  | none => rfl
  | some queue => rfl

theorem course_call {engine : Engine} {op : Op σ} {c : Call} (call : op.call? = some c)
    (d : Dispatcher σ) : Course engine op d [] (step engine op d).1 (step engine op d).2 := by
  have performed := perform_call engine call d
  cases refusal : op.refusal? with
  | some p =>
      rw [refusal] at performed
      rw [step_of_error performed]
      exact .failed call ⟨rfl, rfl, [], [], by simp, by simp, List.nil_sublist _⟩
  | none =>
      rw [refusal] at performed
      cases placed : place c d with
      | error p e =>
          rw [step_of_error (performed.trans (Control.bind_of_error _ placed))]
          exact .failed call (place_panicked placed)
      | ok _ e =>
          rw [step_of_ok (performed.trans (Control.bind_of_ok _ placed))]
          rcases place_eq_ok.mp placed with ⟨h, k, looked, received, rfl⟩ | ⟨sight, h, looked, rfl⟩
          · exact .answered call looked received
          · exact .posted call looked

theorem course_start {engine : Engine} {d : Dispatcher σ} (accounted : d.queue.Accounted)
    (id : JobId) :
    Course engine (.start id) d [] (.ok .done) (d.start id) := by
  unfold Dispatcher.start
  cases started : d.queue.start? id with
  | none => exact .worked rfl rfl accounted rfl (.refl _) fun _ _ carried => carried
  | some queue =>
      have ids : queue.nextId = d.queue.nextId := by
        obtain ⟨job, -, -, rfl⟩ := WorkQueue.start?_eq_some.mp started
        rfl
      exact .worked rfl rfl (accounted.start? started) ids
        (WorkQueue.outstanding_start? accounted started)
        fun _ _ carried => carried.start? accounted started

theorem course_finish {engine : Engine} {d : Dispatcher σ} (accounted : d.queue.Accounted)
    (id : JobId) :
    Course engine (.finish id) d [] (.ok .done) (d.finish engine id) := by
  unfold Dispatcher.finish
  cases done : d.queue.finish? (Job.run engine) id with
  | none => exact .worked rfl rfl accounted rfl (.refl _) fun _ _ carried => carried
  | some queue =>
      have ids : queue.nextId = d.queue.nextId := by
        obtain ⟨job, -, rfl⟩ := WorkQueue.finish?_eq_some.mp done
        rfl
      exact .worked rfl rfl (accounted.finish? done) ids
        (WorkQueue.outstanding_finish? accounted done)
        fun _ _ carried => carried.finish? accounted done

/-- Every operation that injects nothing goes one of the courses. -/
theorem course (engine : Engine) {op : Op σ} {d : Dispatcher σ} (accounted : d.queue.Accounted)
    (own : op.injects = false) :
    Course engine op d (op.deliveries d) (step engine op d).1 (step engine op d).2 := by
  have still : Keeps Aside d d := refl_of (Keeps Aside) d
  cases op with
  | request => exact course_call rfl d
  | socketUpgrade => exact course_call rfl d
  | response => exact course_call rfl d
  | rewrite => exact course_call rfl d
  | document snapshot url frame => exact .checked rfl
  | popup snapshot url frame =>
      refine .aside rfl rfl ?_
      rw [step_popup]
      exact popup_keeps snapshot url frame d
  | addObserver o => exact .aside rfl rfl ⟨rfl, rfl, still.adds⟩
  | removeObserver o => exact .aside rfl rfl ⟨rfl, rfl, still.adds⟩
  | changeHost change => exact .aside rfl rfl ⟨rfl, rfl, [], (List.append_nil _).symm, by simp⟩
  | start id => exact course_start accounted id
  | finish id => exact course_finish accounted id
  | next => exact .drained rfl rfl (step_drained engine rfl accounted).delivers
  | ready => exact .drained rfl rfl (step_drained engine rfl accounted).delivers
  | untilIdle => exact .drained rfl rfl (step_drained engine rfl accounted).delivers
  | complete f => cases own

section

variable {engine : Engine} {op : Op σ} {d e : Dispatcher σ} {xs : List (Delivery σ)}
  {r : Except Panic Response}

theorem Course.inStep (course : Course engine op d xs r e) (h : d.InStep engine) :
    e.InStep engine := by
  cases course with
  | answered call looked received => exact h.of_keeps (logged_keeps _ _ d)
  | posted call looked => exact (h.of_keeps (logged_keeps _ _ d)).posting (Call.fits _ _)
  | failed call fails => exact h.of_keeps fails.keeps
  | checked => exact h.posting rfl
  | aside call drains kept => exact h.of_keeps kept
  | worked call drains accounted ids moved carries => exact h.work accounted moved carries
  | drained call drains delivers => exact delivers.inStep h

theorem Course.grown (course : Course engine op d xs r e) :
    e.stage.effects = d.stage.effects ++ effectsSince d e := by
  have all : ∃ new, e.stage.effects = d.stage.effects ++ new := by
    cases course with
    | answered call looked received => exact ⟨_, Stage.effects_log _ _ d.stage⟩
    | posted call looked => exact ⟨_, Stage.effects_log _ _ d.stage⟩
    | failed call fails => exact ⟨_, fails.keeps.adds.choose_spec.1⟩
    | checked => exact ⟨[], (List.append_nil _).symm⟩
    | aside call drains kept => exact ⟨_, kept.adds.choose_spec.1⟩
    | worked call drains accounted ids moved carries => exact ⟨[], (List.append_nil _).symm⟩
    | drained call drains delivers => exact ⟨_, delivers.effects⟩
  obtain ⟨new, grown⟩ := all
  rw [grown, effectsSince_eq grown]

theorem Course.nextId_le (course : Course engine op d xs r e) :
    d.queue.nextId ≤ e.queue.nextId := by
  cases course with
  | answered call looked received => exact Nat.le_refl _
  | posted call looked => exact Nat.le_succ _
  | failed call fails => exact Nat.le_of_eq (congrArg WorkQueue.nextId fails.keeps.queue.symm)
  | checked => exact Nat.le_succ _
  | aside call drains kept => exact Nat.le_of_eq (congrArg WorkQueue.nextId kept.queue.symm)
  | worked call drains accounted ids moved carries => exact Nat.le_of_eq ids.symm
  | drained call drains delivers => exact Nat.le_of_eq delivers.outstanding.2.symm

theorem Course.posts (course : Course engine op d xs r e) {id : JobId}
    (fresh : id ∉ d.queue.outstanding) (there : id ∈ e.queue.outstanding) :
    id = d.queue.nextId ∧ op.posts = true := by
  have new {job : Job} (there : id ∈ (d.queue.post job).2.outstanding) : id = d.queue.nextId :=
    (List.mem_cons.mp ((WorkQueue.outstanding_post d.queue job).mem_iff.mp there)).resolve_right
      fresh
  have same {P : Effect → Prop} {e : Dispatcher σ} (keeps : Keeps P d e)
      (there : id ∈ e.queue.outstanding) : id ∈ d.queue.outstanding := keeps.queue ▸ there
  cases course with
  | answered call looked received => exact absurd there fresh
  | posted call looked => exact ⟨new there, by cases op <;> first | rfl | cases call⟩
  | failed call fails => exact absurd (same fails.keeps there) fresh
  | checked document => exact ⟨new there, by rw [document]; rfl⟩
  | aside call drains keeps => exact absurd (same keeps there) fresh
  | worked call drains accounted ids moved carries => exact absurd (moved.mem_iff.mpr there) fresh
  | drained call drains delivers =>
      exact absurd (delivers.outstanding.1.mem_iff.mpr (List.mem_append_right _ there)) fresh

theorem Course.spent (course : Course engine op d xs r e) {id : JobId} (spent : Spent id d) :
    Spent id e :=
  ⟨Nat.lt_of_lt_of_le spent.1 course.nextId_le,
    fun there => Nat.ne_of_lt spent.1 (course.posts spent.2 there).1⟩

theorem Course.takes_iff (course : Course engine op d xs r e) (h : d.InStep engine) (id : JobId) :
    id ∈ d.queue.outstanding ∧ id ∉ e.queue.outstanding ↔ id ∈ xs.map (·.outcome.id) := by
  have kept {e : Dispatcher σ} (stays : ∀ id ∈ d.queue.outstanding, id ∈ e.queue.outstanding) :
      id ∈ d.queue.outstanding ∧ id ∉ e.queue.outstanding ↔
        id ∈ ([] : List (Delivery σ)).map (·.outcome.id) := by
    simpa using stays id
  have same {P : Effect → Prop} {e : Dispatcher σ} (keeps : Keeps P d e) :
      ∀ id ∈ d.queue.outstanding, id ∈ e.queue.outstanding := by
    rw [keeps.queue]
    exact fun _ there => there
  have more (job : Job) : ∀ id ∈ d.queue.outstanding, id ∈ (d.queue.post job).2.outstanding :=
    fun id there =>
      (WorkQueue.outstanding_post d.queue job).mem_iff.mpr (List.mem_cons_of_mem _ there)
  cases course with
  | answered call looked received => exact kept fun _ there => there
  | posted call looked => exact kept (more _)
  | failed call fails => exact kept (same fails.keeps)
  | checked => exact kept (more _)
  | aside call drains keeps => exact kept (same keeps)
  | worked call drains accounted ids moved carries => exact kept fun id => moved.mem_iff.mp
  | drained call drains delivers =>
      refine ⟨fun ⟨there, gone⟩ => ?_, (delivers.distinct h).2 id⟩
      exact (List.mem_append.mp (delivers.outstanding.1.mem_iff.mp there)).resolve_right gone

theorem Course.delivered (course : Course engine op d xs r e) (h : d.InStep engine) {id : JobId}
    (present : id ∈ xs.map (·.outcome.id)) : op.drains = true ∧ Spent id e := by
  obtain ⟨there, gone⟩ := (course.takes_iff h id).mpr present
  cases course with
  | drained call drains delivers =>
      exact ⟨drains, delivers.outstanding.2 ▸ h.accounted.posted id there, gone⟩
  | _ => cases present

theorem Course.delivered_once (course : Course engine op d xs r e) (h : d.InStep engine) :
    (xs.map (·.outcome.id)).Nodup := by
  cases course with
  | drained call drains delivers => exact (delivers.distinct h).1
  | _ => exact List.nodup_nil

theorem Course.each (course : Course engine op d xs r e) (h : d.InStep engine) :
    ∀ x ∈ xs, ∃ entry, x.before.pending.lookup x.outcome.id = some entry ∧
      x.effects.filterMap Effect.answer? = (entry.reply? x.outcome.output).toList ∧
      x.effects.filterMap Effect.pass? =
        (entry.due x.outcome.output x.before.stage.host).toList := by
  cases course with
  | drained call drains delivers =>
      intro x member
      obtain ⟨entry, -, known, rest⟩ := delivers.each h x member
      exact ⟨entry, known, rest⟩
  | _ => simp

end

/-- One operation of a run: where it begins, what it comes to and where it leads. -/
structure Stride (σ : Type) where
  op : Op σ
  before : Dispatcher σ
  response : Except Panic Response
  after : Dispatcher σ

namespace Stride

variable {σ : Type}

def effects (s : Stride σ) : List Effect :=
  effectsSince s.before s.after

def deliveries [Host σ] (s : Stride σ) : List (Delivery σ) :=
  s.op.deliveries s.before

/-- A job comes into the queue. -/
def Posts (s : Stride σ) (id : JobId) : Prop :=
  id ∉ s.before.queue.outstanding ∧ id ∈ s.after.queue.outstanding

/-- The outcome of a job leaves the queue. -/
def Takes (s : Stride σ) (id : JobId) : Prop :=
  id ∈ s.before.queue.outstanding ∧ id ∉ s.after.queue.outstanding

end Stride

def stride (engine : Engine) (op : Op σ) (d : Dispatcher σ) : Stride σ :=
  ⟨op, d, (step engine op d).1, (step engine op d).2⟩

def strides (engine : Engine) : List (Op σ) → Dispatcher σ → List (Stride σ)
  | [], _ => []
  | op :: rest, d => stride engine op d :: strides engine rest (step engine op d).2

theorem run_cons (engine : Engine) (op : Op σ) (rest : List (Op σ)) (d : Dispatcher σ) :
    (run engine (op :: rest) d).2 = (run engine rest (step engine op d).2).2 := rfl

theorem run_append (engine : Engine) (first later : List (Op σ)) (d : Dispatcher σ) :
    (run engine (first ++ later) d).2 = (run engine later (run engine first d).2).2 := by
  induction first generalizing d with
  | nil => rfl
  | cons op rest ih => rw [List.cons_append, run_cons, run_cons, ih]

theorem strides_response (engine : Engine) (ops : List (Op σ)) (d : Dispatcher σ) :
    (strides engine ops d).map (·.response) = (run engine ops d).1 := by
  induction ops generalizing d with
  | nil => rfl
  | cons op rest ih =>
      rw [strides, List.map_cons, ih]
      rfl

theorem strides_append (engine : Engine) (first later : List (Op σ)) (d : Dispatcher σ) :
    strides engine (first ++ later) d =
      strides engine first d ++ strides engine later (run engine first d).2 := by
  induction first generalizing d with
  | nil => rfl
  | cons op rest ih =>
      rw [List.cons_append, strides, ih]
      rfl

theorem strides_split {engine : Engine} {ops : List (Op σ)} {d : Dispatcher σ}
    {before after : List (Stride σ)} {s : Stride σ}
    (split : strides engine ops d = before ++ s :: after) :
    ∃ earlier op later, ops = earlier ++ op :: later ∧ before = strides engine earlier d ∧
      s = stride engine op (run engine earlier d).2 ∧ after = strides engine later s.after ∧
      (run engine ops d).2 = (run engine later s.after).2 := by
  induction before generalizing ops d with
  | nil =>
      cases ops with
      | nil => cases split
      | cons op rest =>
          obtain ⟨rfl, rfl⟩ := List.cons.inj split
          exact ⟨[], op, rest, rfl, rfl, rfl, rfl, rfl⟩
  | cons first before ih =>
      cases ops with
      | nil => cases split
      | cons op rest =>
          obtain ⟨rfl, others⟩ := List.cons.inj split
          obtain ⟨earlier, other, later, rfl, rfl, same, after, last⟩ := ih others
          exact ⟨op :: earlier, other, later, rfl, rfl, same, after, last⟩

theorem run_inStep {engine : Engine} {ops : List (Op σ)} {d : Dispatcher σ}
    (h : d.InStep engine) (own : ∀ op ∈ ops, op.injects = false) :
    (run engine ops d).2.InStep engine := by
  induction ops generalizing d with
  | nil => exact h
  | cons op rest ih =>
      rw [run_cons]
      apply ih ((course engine h.accounted (own op List.mem_cons_self)).inStep h)
      intro later member
      exact own later (List.mem_cons_of_mem _ member)

/-- A stride of a run finds jobs and entries in step and goes one of the courses. -/
theorem stride_of_split {engine : Engine} {ops : List (Op σ)} {d : Dispatcher σ}
    {before after : List (Stride σ)} {s : Stride σ} (h : d.InStep engine)
    (own : ∀ op ∈ ops, op.injects = false)
    (split : strides engine ops d = before ++ s :: after) :
    ∃ earlier later, ops = earlier ++ s.op :: later ∧ before = strides engine earlier d ∧
      s.before = (run engine earlier d).2 ∧ after = strides engine later s.after ∧
      (run engine ops d).2 = (run engine later s.after).2 ∧ s.before.InStep engine ∧
      Course engine s.op s.before (s.op.deliveries s.before) s.response s.after := by
  obtain ⟨earlier, op, later, rfl, rfl, rfl, rfl, last⟩ := strides_split split
  have there : (run engine earlier d).2.InStep engine :=
    run_inStep h fun x member => own x (List.mem_append_left _ member)
  refine ⟨earlier, later, rfl, rfl, rfl, rfl, last, there, ?_⟩
  exact course engine there.accounted (own op (List.mem_append_right _ List.mem_cons_self))

theorem stride_course {engine : Engine} {ops : List (Op σ)} {d : Dispatcher σ} {s : Stride σ}
    (h : d.InStep engine) (own : ∀ op ∈ ops, op.injects = false)
    (member : s ∈ strides engine ops d) :
    s.before.InStep engine ∧ Course engine s.op s.before s.deliveries s.response s.after := by
  obtain ⟨before, after, split⟩ := List.append_of_mem member
  obtain ⟨-, -, -, -, -, -, -, there, here⟩ := stride_of_split h own split
  exact ⟨there, here⟩

theorem run_effects {engine : Engine} {ops : List (Op σ)} {d : Dispatcher σ}
    (h : d.InStep engine) (own : ∀ op ∈ ops, op.injects = false) :
    (run engine ops d).2.stage.effects =
      d.stage.effects ++ (strides engine ops d).flatMap Stride.effects := by
  induction ops generalizing d with
  | nil => simp [run, strides]
  | cons op rest ih =>
      have here := course engine h.accounted (own op List.mem_cons_self)
      rw [run_cons, ih (here.inStep h) fun later member => own later (List.mem_cons_of_mem _ member),
        strides, List.flatMap_cons, ← List.append_assoc]
      congr 1
      exact here.grown

theorem spent_run {engine : Engine} {ops : List (Op σ)} {d : Dispatcher σ} {id : JobId}
    (h : d.InStep engine) (own : ∀ op ∈ ops, op.injects = false) (spent : Spent id d) :
    Spent id (run engine ops d).2 ∧ ∀ t ∈ strides engine ops d, ¬ t.Takes id := by
  induction ops generalizing d with
  | nil => exact ⟨spent, by simp [strides]⟩
  | cons op rest ih =>
      have here := course engine h.accounted (own op List.mem_cons_self)
      obtain ⟨last, later⟩ := ih (here.inStep h)
        (fun later member => own later (List.mem_cons_of_mem _ member)) (here.spent spent)
      refine ⟨last, ?_⟩
      intro t member
      rcases List.mem_cons.mp member with rfl | further
      · exact fun takes => spent.2 takes.1
      · exact later t further

/-- Operations lead from one dispatcher to the other, and none of them injects an outcome. -/
def Leads (engine : Engine) (d e : Dispatcher σ) : Prop :=
  ∃ ops, (∀ op ∈ ops, op.injects = false) ∧ e = (run engine ops d).2

instance (engine : Engine) : IsPreorder (Dispatcher σ) (Leads engine) where
  refl d := ⟨[], by simp, rfl⟩
  trans := by
    rintro d e f ⟨first, own, rfl⟩ ⟨later, own', rfl⟩
    refine ⟨first ++ later, ?_, (run_append engine first later d).symm⟩
    intro op member
    rcases List.mem_append.mp member with early | late
    · exact own op early
    · exact own' op late

theorem leads_step (engine : Engine) (op : Op σ) (own : op.injects = false) (d : Dispatcher σ) :
    Leads engine d (step engine op d).2 :=
  ⟨[op], by simpa using own, rfl⟩

theorem Leads.inStep {engine : Engine} {d e : Dispatcher σ} (leads : Leads engine d e)
    (h : d.InStep engine) : e.InStep engine := by
  obtain ⟨ops, own, rfl⟩ := leads
  exact run_inStep h own

end FilterDispatch.Dispatcher
