import FilterDispatch.Proofs.Dispatcher.Completions
import FilterDispatch.Proofs.Dispatcher.Panics
import FilterDispatch.Queue.Run

/-!
Entries and jobs.  An entry comes with its job and goes with the job's outcome, and both are known by
one id meanwhile.  So an outcome of the queue finds its entry, and the entry an output of its kind.
That takes nothing for granted of the engine, which may be another one at each operation, nor of the
order in which outcomes arrive.
-/

namespace FilterDispatch.Dispatcher

/-- An operation under an engine of its own, or an outcome that gets ahead of the others. -/
inductive Move (σ : Type)
  | operate (engine : Engine) (op : Op σ)
  | overtake (id : JobId)

structure Turn (σ : Type) where
  move : Move σ
  before : Dispatcher σ
  after : Dispatcher σ

abbrev Posting := JobId × Job

section Turns

variable {σ : Type}

def Move.injects : Move σ → Bool
  | .operate _ op => op.injects
  | .overtake _ => false

/-- The jobs that wait now and were not in the queue before. -/
def Turn.posted (t : Turn σ) : List Posting :=
  t.after.queue.waiting.filter fun j => j.1 ∉ t.before.queue.outstanding

/-- The outcomes that were in the queue before and are there no more. -/
def Turn.taken (t : Turn σ) : List (Finished JobOutput) :=
  t.before.queue.finished.filter fun f => f.id ∉ t.after.queue.outstanding

variable [Host σ]

def Move.deliveries : Move σ → Dispatcher σ → List (Delivery σ)
  | .operate _ op, d => op.deliveries d
  | .overtake _, _ => []

def Move.apply : Move σ → Dispatcher σ → Dispatcher σ
  | .operate engine op, d => (step engine op d).2
  | .overtake id, d => { d with queue := d.queue.overtake id }

def Turn.deliveries (t : Turn σ) : List (Delivery σ) :=
  t.move.deliveries t.before

def turns : List (Move σ) → Dispatcher σ → List (Turn σ)
  | [], _ => []
  | m :: rest, d => ⟨m, d, m.apply d⟩ :: turns rest (m.apply d)

def applyAll : List (Move σ) → Dispatcher σ → Dispatcher σ
  | [], d => d
  | m :: rest, d => applyAll rest (m.apply d)

end Turns

theorem waiting_outstanding {q : WorkQueue Job JobOutput} {j : Posting} (there : j ∈ q.waiting) :
    j.1 ∈ q.outstanding :=
  List.mem_append_left _ (List.mem_append_left _ (List.mem_map.mpr ⟨j, there, rfl⟩))

theorem finished_outstanding {q : WorkQueue Job JobOutput} {f : Finished JobOutput}
    (there : f ∈ q.finished) : f.id ∈ q.outstanding :=
  List.mem_append_right _ (List.mem_map.mpr ⟨f, there, rfl⟩)

/-- The workers moved jobs on.  A job keeps its id, and an outcome is what some engine made of the job
that ran under its id. -/
structure Works (q r : WorkQueue Job JobOutput) : Prop where
  jobs : q.outstanding.Perm r.outstanding
  ids : r.nextId = q.nextId
  count : r.inFlight = q.inFlight
  held : ∀ j, j ∈ r.waiting ∨ j ∈ r.running → j ∈ q.waiting ∨ j ∈ q.running
  waits : ∀ j ∈ r.waiting, j ∈ q.waiting
  ended : ∀ f ∈ r.finished, f ∈ q.finished ∨ ∃ job engine, (f.id, job) ∈ q.running ∧
    f.output = (job.run engine).mapError JobError.ofPanic

theorem works_start? {q r : WorkQueue Job JobOutput} {id : JobId} (accounted : q.Accounted)
    (started : q.start? id = some r) : Works q r := by
  have jobs := WorkQueue.outstanding_start? accounted started
  obtain ⟨job, found, -, rfl⟩ := WorkQueue.start?_eq_some.mp started
  have member := List.mem_of_find?_eq_some found
  have waits : ∀ j ∈ WorkQueue.without id q.waiting, j ∈ q.waiting :=
    fun j there => (WorkQueue.mem_without.mp there).1
  refine ⟨jobs, rfl, rfl, ?_, waits, fun f there => .inl there⟩
  intro j there
  rcases there with waiting | running
  · exact .inl (waits j waiting)
  · rcases List.mem_append.mp running with old | new
    · exact .inr old
    · cases List.mem_singleton.mp new
      exact .inl member

theorem works_finish? {engine : Engine} {q r : WorkQueue Job JobOutput} {id : JobId}
    (accounted : q.Accounted) (done : q.finish? (Job.run engine) id = some r) : Works q r := by
  have jobs := WorkQueue.outstanding_finish? accounted done
  obtain ⟨job, found, rfl⟩ := WorkQueue.finish?_eq_some.mp done
  have member := List.mem_of_find?_eq_some found
  obtain ⟨own, job⟩ := job
  cases WorkQueue.find?_id found
  refine ⟨jobs, rfl, rfl, ?_, fun j there => there, ?_⟩
  · intro j there
    rcases there with waiting | running
    · exact .inl waiting
    · exact .inr (WorkQueue.mem_without.mp running).1
  · intro f there
    rcases List.mem_append.mp there with old | new
    · exact .inl old
    · cases List.mem_singleton.mp new
      exact .inr ⟨job, engine, member, rfl⟩

theorem works_overtake (q : WorkQueue Job JobOutput) (id : JobId) : Works q (q.overtake id) := by
  have moved : (q.overtake id).finished.Perm q.finished := by
    have split := List.filter_append_perm (fun f => decide (f.id = id)) q.finished
    simpa [WorkQueue.overtake] using split
  refine ⟨?_, rfl, rfl, fun _ there => there, fun _ there => there, ?_⟩
  · exact ((moved.map _).symm.append_left _)
  · intro f there
    exact .inl (moved.subset there)

/-- The outcome is one that some engine made of a job that was posted under its id. -/
def Stems (posted : List Posting) (f : Finished JobOutput) : Prop :=
  ∃ job engine, (f.id, job) ∈ posted ∧ f.output = (job.run engine).mapError JobError.ofPanic

theorem Stems.mono {posted more : List Posting} {f : Finished JobOutput} (stems : Stems posted f)
    (all : posted ⊆ more) : Stems more f := by
  obtain ⟨job, engine, member, made⟩ := stems
  exact ⟨job, engine, all member, made⟩

section Pairing

variable {σ : Type} {posted : List Posting} {taken : List (Finished JobOutput)} {d e : Dispatcher σ}

/-- Jobs that were posted, outcomes that were taken and entries that are kept, in step. -/
structure Paired (posted : List Posting) (taken : List (Finished JobOutput)) (d : Dispatcher σ) :
    Prop where
  accounted : d.queue.Accounted
  numbered : posted.map (·.1) = List.range d.queue.nextId
  phases : (posted.map (·.1)).Perm (taken.map (·.id) ++ d.queue.outstanding)
  keys : (d.pending.map (·.1)).Perm d.queue.outstanding
  kinds : ∀ id entry, (id, entry) ∈ d.pending → ∀ job, (id, job) ∈ posted → entry.kind = job.kind
  held : ∀ j, j ∈ d.queue.waiting ∨ j ∈ d.queue.running → j ∈ posted
  stems : ∀ f ∈ d.queue.finished, Stems posted f

theorem Paired.distinct (h : d.Paired posted taken) : (d.pending.map (·.1)).Nodup :=
  h.keys.nodup_iff.mpr h.accounted.distinct

theorem Paired.kept (h : d.Paired posted taken) (queue : e.queue = d.queue)
    (pending : e.pending = d.pending) : e.Paired posted taken := by
  refine ⟨?_, ?_, ?_, ?_, ?_, ?_, ?_⟩
  · rw [queue]
    exact h.accounted
  · rw [queue]
    exact h.numbered
  · rw [queue]
    exact h.phases
  · rw [queue, pending]
    exact h.keys
  · rw [pending]
    exact h.kinds
  · rw [queue]
    exact h.held
  · rw [queue]
    exact h.stems

theorem Paired.fresh (h : d.Paired posted taken) :
    d.queue.nextId ∉ d.pending.map (·.1) ∧ d.queue.nextId ∉ posted.map (·.1) := by
  constructor
  · intro there
    exact h.accounted.nextId_fresh (h.keys.mem_iff.mp there)
  · intro there
    rw [h.numbered, List.mem_range] at there
    exact Nat.lt_irrefl _ there

theorem Paired.posting (h : d.Paired posted taken) {job : Job} {entry : Pending}
    (fits : entry.kind = job.kind) (queue : e.queue = (d.queue.post job).2)
    (pending : e.pending = d.pending ++ [(d.queue.nextId, entry)]) :
    e.Paired (posted ++ [(d.queue.nextId, job)]) taken := by
  have more := WorkQueue.outstanding_post d.queue job
  obtain ⟨unkept, unposted⟩ := h.fresh
  refine ⟨?accounted, ?numbered, ?phases, ?keys, ?kinds, ?held, ?stems⟩
  case accounted =>
    rw [queue]
    exact h.accounted.post job
  case numbered =>
    rw [queue, List.map_append, h.numbered]
    exact List.range_succ.symm
  case phases =>
    rw [queue, List.map_append]
    apply (h.phases.append_right _).trans
    rw [List.append_assoc]
    apply List.Perm.append_left
    exact (List.perm_append_singleton _ _).trans more.symm
  case keys =>
    rw [queue, pending, List.map_append]
    apply (List.perm_append_singleton _ _).trans
    exact (h.keys.cons _).trans more.symm
  case kinds =>
    -- Old entries go with old jobs and the new one with the new job, the id being new on both sides.
    intro id kept member other there
    rw [pending] at member
    rcases List.mem_append.mp member with old | new
    · rcases List.mem_append.mp there with before | last
      · exact h.kinds id kept old other before
      · cases List.mem_singleton.mp last
        exact absurd (List.mem_map.mpr ⟨_, old, rfl⟩) unkept
    · cases List.mem_singleton.mp new
      rcases List.mem_append.mp there with before | last
      · exact absurd (List.mem_map.mpr ⟨_, before, rfl⟩) unposted
      · cases List.mem_singleton.mp last
        exact fits
  case held =>
    intro j there
    rw [queue] at there
    rcases there with waiting | running
    · rcases List.mem_append.mp waiting with old | new
      · exact List.mem_append_left _ (h.held j (.inl old))
      · exact List.mem_append_right _ new
    · exact List.mem_append_left _ (h.held j (.inr running))
  case stems =>
    intro f there
    rw [queue] at there
    exact (h.stems f there).mono (List.subset_append_left _ _)

theorem Paired.works (h : d.Paired posted taken) {queue : WorkQueue Job JobOutput}
    (works : Works d.queue queue) : ({ d with queue } : Dispatcher σ).Paired posted taken where
  accounted := h.accounted.of_perm works.jobs works.ids works.count
  numbered := works.ids ▸ h.numbered
  phases := h.phases.trans (works.jobs.append_left _)
  keys := h.keys.trans works.jobs
  kinds := h.kinds
  held j there := h.held j (works.held j there)
  stems f there := by
    rcases works.ended f there with old | ⟨job, engine, running, made⟩
    · exact h.stems f old
    · exact ⟨job, engine, h.held _ (.inr running), made⟩

end Pairing

variable {σ : Type} [Host σ]

inductive Shift (d : Dispatcher σ) : List Posting → List (Delivery σ) → Dispatcher σ → Prop
  | kept {e} : e.queue = d.queue → e.pending = d.pending → Shift d [] [] e
  | posted {job entry e} : entry.kind = job.kind → e.queue = (d.queue.post job).2 →
      e.pending = d.pending ++ [(d.queue.nextId, entry)] → Shift d [(d.queue.nextId, job)] [] e
  | worked {queue} : Works d.queue queue → Shift d [] [] { d with queue }
  | drained {xs e} : Delivers d xs e → Shift d [] xs e

section Shifts

variable {d e : Dispatcher σ} {engine : Engine}

theorem Course.shift {op : Op σ} {c : Call} {r : Except Panic Response}
    (course : Course engine op d [] r e) (mine : op.call? = some c) : ∃ new, Shift d new [] e := by
  cases course with
  | answered => exact ⟨[], .kept rfl rfl⟩
  | @posted c sight => exact ⟨_, .posted (c.fits sight) rfl rfl⟩
  | failed found fails => exact ⟨[], .kept fails.queue fails.pending⟩
  | checked document => exact ⟨_, .posted rfl rfl rfl⟩
  | aside none drains kept => exact ⟨[], .kept kept.queue kept.pending⟩
  | worked none => rw [mine] at none; cases none
  | drained none => rw [mine] at none; cases none

theorem shift_start (accounted : d.queue.Accounted) (id : JobId) : Shift d [] [] (d.start id) := by
  unfold Dispatcher.start
  cases started : d.queue.start? id with
  | none => exact .kept rfl rfl
  | some queue => exact .worked (works_start? accounted started)

theorem shift_finish (accounted : d.queue.Accounted) (id : JobId) :
    Shift d [] [] (d.finish engine id) := by
  unfold Dispatcher.finish
  cases done : d.queue.finish? (Job.run engine) id with
  | none => exact .kept rfl rfl
  | some queue => exact .worked (works_finish? accounted done)

theorem shift_step (accounted : d.queue.Accounted) {op : Op σ} (own : op.injects = false) :
    ∃ new, Shift d new (op.deliveries d) (step engine op d).2 := by
  cases op with
  | request => exact (course_call rfl d).shift rfl
  | socketUpgrade => exact (course_call rfl d).shift rfl
  | response => exact (course_call rfl d).shift rfl
  | rewrite => exact (course_call rfl d).shift rfl
  | document snapshot url frame =>
      exact ⟨[(d.queue.nextId, .allowlist snapshot url)], .posted rfl rfl rfl⟩
  | popup snapshot url frame =>
      have kept := popup_keeps snapshot url frame d
      rw [step_popup]
      exact ⟨[], .kept kept.queue kept.pending⟩
  | addObserver o => exact ⟨[], .kept rfl rfl⟩
  | removeObserver o => exact ⟨[], .kept rfl rfl⟩
  | changeHost change => exact ⟨[], .kept rfl rfl⟩
  | start id => exact ⟨[], shift_start accounted id⟩
  | finish id => exact ⟨[], shift_finish accounted id⟩
  | next => exact ⟨[], .drained (step_drained engine rfl accounted).delivers⟩
  | ready => exact ⟨[], .drained (step_drained engine rfl accounted).delivers⟩
  | untilIdle => exact ⟨[], .drained (step_drained engine rfl accounted).delivers⟩
  | complete f => cases own

theorem shift_move (accounted : d.queue.Accounted) {m : Move σ} (own : m.injects = false) :
    ∃ new, Shift d new (m.deliveries d) (m.apply d) := by
  cases m with
  | operate engine op => exact shift_step accounted own
  | overtake id => exact ⟨[], .worked (works_overtake d.queue id)⟩

end Shifts

/-- The outcome of a job that was posted is delivered: its entry is found and taken away, and the output
is of the entry's kind, unless the job failed. -/
structure Meets (posted : List Posting) (x : Delivery σ) : Prop where
  led : x.after = Control.final (complete x.outcome) x.before
  stems : Stems posted x.outcome
  entry : ∃ entry, x.before.pending.lookup x.outcome.id = some entry ∧
    x.before.pending.Perm ((x.outcome.id, entry) :: x.after.pending) ∧
    ∀ o, x.outcome.output = .ok o → kindOf o = entry.kind

theorem Meets.mono {posted more : List Posting} {x : Delivery σ} (meets : Meets posted x)
    (all : posted ⊆ more) : Meets more x :=
  ⟨meets.led, meets.stems.mono all, meets.entry⟩

section Delivering

variable {posted new : List Posting} {taken : List (Finished JobOutput)} {d e : Dispatcher σ}
  {xs : List (Delivery σ)}

/-- The outcome that is taken next meets its entry, and neither is there any more. -/
theorem Paired.deliver (h : d.Paired posted taken) {f : Finished JobOutput}
    {queue : WorkQueue Job JobOutput} (found : d.queue.tryNext = some (f, queue)) :
    (Control.final (complete f) { d with queue }).Paired posted (taken ++ [f]) ∧
      Meets posted ⟨f, { d with queue }, Control.final (complete f) { d with queue }⟩ := by
  have less := WorkQueue.outstanding_tryNext found
  obtain ⟨first, shape⟩ := WorkQueue.tryNext_eq_some.mp found
  have completes := completes f { d with queue }
  -- The id of the outcome is one of those in the queue, which are the keys of the entries.
  have mine : f.id ∈ d.pending.map (·.1) :=
    h.keys.mem_iff.mpr (less.mem_iff.mpr List.mem_cons_self)
  obtain ⟨⟨id, entry⟩, member, same⟩ := List.mem_map.mp mine
  cases same
  have known : d.pending.lookup f.id = some entry := (lookup_eq_some h.distinct).mpr member
  have moved := completes.removed h.distinct entry known
  have stems := h.stems f (first ▸ List.mem_cons_self)
  refine ⟨⟨?accounted, ?numbered, ?phases, ?keys, ?kinds, ?held, ?stems⟩, rfl, stems,
    entry, known, moved, ?_⟩
  case accounted =>
    rw [completes.queue]
    exact (h.accounted.tryNext found).1
  case numbered =>
    rw [completes.queue, h.numbered, shape]
  case phases =>
    rw [completes.queue, List.map_append, List.append_assoc]
    exact h.phases.trans (less.append_left _)
  case keys =>
    rw [completes.queue]
    have split := (moved.map (·.1)).symm.trans (h.keys.trans less)
    exact List.Perm.cons_inv split
  case kinds =>
    intro id kept there
    exact h.kinds id kept (moved.mem_iff.mpr (List.mem_cons_of_mem _ there))
  case held =>
    rw [completes.queue, shape]
    exact h.held
  case stems =>
    rw [completes.queue]
    intro g there
    exact h.stems g (first ▸ List.mem_cons_of_mem f there)
  · -- The entry and the output are both of the kind of the job that was posted.
    intro o made
    obtain ⟨job, engine, posted, own⟩ := stems
    rw [h.kinds f.id entry member job posted]
    exact kindOf_run (own.symm.trans made)

theorem Paired.delivers (h : d.Paired posted taken) (delivers : Delivers d xs e) :
    e.Paired posted (taken ++ xs.map (·.outcome)) ∧ ∀ x ∈ xs, Meets posted x := by
  induction delivers generalizing taken with
  | done d =>
      rw [List.map_nil, List.append_nil]
      exact ⟨h, nofun⟩
  | next found rest ih =>
      obtain ⟨after, here⟩ := h.deliver found
      obtain ⟨last, others⟩ := ih after
      rw [List.append_assoc] at last
      refine ⟨last, ?_⟩
      intro x member
      rcases List.mem_cons.mp member with rfl | further
      · exact here
      · exact others x further

theorem Paired.shift (h : d.Paired posted taken) (shift : Shift d new xs e) :
    e.Paired (posted ++ new) (taken ++ xs.map (·.outcome)) ∧ ∀ x ∈ xs, Meets posted x := by
  cases shift with
  | kept queue pending =>
      rw [List.append_nil, List.map_nil, List.append_nil]
      exact ⟨h.kept queue pending, nofun⟩
  | posted fits queue pending =>
      rw [List.map_nil, List.append_nil]
      exact ⟨h.posting fits queue pending, nofun⟩
  | worked works =>
      rw [List.append_nil, List.map_nil, List.append_nil]
      exact ⟨h.works works, nofun⟩
  | drained delivers =>
      rw [List.append_nil]
      exact h.delivers delivers

end Delivering

section Balance

variable {posted new more : List Posting} {taken : List (Finished JobOutput)} {d e : Dispatcher σ}
  {xs : List (Delivery σ)}

theorem Shift.posted_eq (shift : Shift d new xs e) (accounted : d.queue.Accounted) :
    e.queue.waiting.filter (fun j => j.1 ∉ d.queue.outstanding) = new := by
  have none {jobs : List Posting} (old : ∀ j ∈ jobs, j ∈ d.queue.waiting) :
      jobs.filter (fun j => j.1 ∉ d.queue.outstanding) = [] := by
    rw [List.filter_eq_nil_iff]
    intro j there
    simpa using waiting_outstanding (old j there)
  cases shift with
  | kept queue pending =>
      rw [queue]
      exact none fun j there => there
  | @posted job entry e fits queue pending =>
      have one : [(d.queue.nextId, job)].filter (fun j => j.1 ∉ d.queue.outstanding) =
          [(d.queue.nextId, job)] :=
        List.filter_cons_of_pos (by simpa using accounted.nextId_fresh)
      rw [queue, WorkQueue.post, List.filter_append, none fun j there => there, one]
      rfl
  | worked works => exact none works.waits
  | drained delivers =>
      rw [delivers.queue.2]
      exact none fun j there => there

theorem Shift.taken_eq (shift : Shift d new xs e) (accounted : d.queue.Accounted) :
    d.queue.finished.filter (fun f => f.id ∉ e.queue.outstanding) = xs.map (·.outcome) := by
  have none {q : WorkQueue Job JobOutput} (outcomes : List (Finished JobOutput))
      (still : ∀ f ∈ outcomes, f.id ∈ q.outstanding) :
      outcomes.filter (fun f => f.id ∉ q.outstanding) = [] := by
    rw [List.filter_eq_nil_iff]
    intro f there
    simpa using still f there
  cases shift with
  | kept queue pending =>
      rw [queue]
      exact none _ fun f there => finished_outstanding there
  | @posted job entry e fits queue pending =>
      have more := WorkQueue.outstanding_post d.queue job
      rw [queue]
      exact none _ fun f there => more.mem_iff.mpr (List.mem_cons_of_mem _ (finished_outstanding there))
  | worked works =>
      exact none _ fun f there => works.jobs.mem_iff.mp (finished_outstanding there)
  | drained delivers =>
      -- Ids in the queue are distinct, so a delivered one is not among those that stay.
      have apart := (List.nodup_append.mp (delivers.outstanding.1.nodup_iff.mp accounted.distinct)).2.2
      have gone : ∀ f ∈ xs.map (·.outcome), f.id ∉ e.queue.outstanding := by
        intro f there still
        obtain ⟨x, member, rfl⟩ := List.mem_map.mp there
        exact apart _ (List.mem_map.mpr ⟨x, member, rfl⟩) _ still rfl
      rw [delivers.queue.1, List.filter_append,
        none e.queue.finished fun f there => finished_outstanding there, List.append_nil]
      exact List.filter_eq_self.mpr fun f there => decide_eq_true (gone f there)

/-- A turn does to the entries what it does to the queue. -/
structure Turn.Balanced (posted : List Posting) (t : Turn σ) : Prop where
  /-- Entries stay but for those of the outcomes that are taken, and come with jobs of their kind. -/
  entries : ∃ added, t.after.pending =
      t.before.pending.filter (fun e => e.1 ∉ t.taken.map (·.id)) ++ added ∧
    List.Forall₂ (fun e j => e.1 = j.1 ∧ e.2.kind = j.2.kind) added t.posted
  fresh : ∀ j ∈ t.posted, j.1 ∉ t.before.pending.map (·.1)
  known : ∀ f ∈ t.taken, f.id ∈ t.before.pending.map (·.1)
  counted : t.after.inFlight + t.taken.length = t.before.inFlight + t.posted.length
  delivered : t.taken = t.deliveries.map (·.outcome)
  meets : ∀ x ∈ t.deliveries, Meets posted x

theorem Turn.Balanced.mono {t : Turn σ} (balanced : t.Balanced posted) (all : posted ⊆ more) :
    t.Balanced more :=
  { balanced with meets := fun x member => (balanced.meets x member).mono all }

theorem Shift.balanced {m : Move σ} (shift : Shift d new xs e) (h : d.Paired posted taken)
    (delivered : m.deliveries d = xs) : Turn.Balanced posted ⟨m, d, e⟩ := by
  have post : Turn.posted ⟨m, d, e⟩ = new := shift.posted_eq h.accounted
  have take : Turn.taken ⟨m, d, e⟩ = xs.map (·.outcome) := shift.taken_eq h.accounted
  have meets := (h.shift shift).2
  have all : d.pending.filter (fun e => e.1 ∉ ([] : List JobId)) = d.pending := by simp
  refine ⟨?entries, ?fresh, ?known, ?counted, ?_, ?_⟩
  case entries =>
    rw [post, take]
    cases shift with
    | kept queue pending => exact ⟨[], by rw [pending, List.append_nil]; exact all.symm, .nil⟩
    | posted fits queue pending =>
        exact ⟨_, pending.trans (congrArg (· ++ _) all.symm), .cons ⟨rfl, fits⟩ .nil⟩
    | worked works => exact ⟨[], by rw [List.append_nil]; exact all.symm, .nil⟩
    | drained delivers =>
        refine ⟨[], ?_, .nil⟩
        rw [List.append_nil, List.map_map]
        exact delivers.pending
  case fresh =>
    rw [post]
    cases shift with
    | posted fits queue pending =>
        intro j there
        cases List.mem_singleton.mp there
        exact h.fresh.1
    | _ => exact nofun
  case known =>
    rw [take]
    intro f there
    obtain ⟨x, member, rfl⟩ := List.mem_map.mp there
    cases shift with
    | drained delivers =>
        apply h.keys.mem_iff.mpr
        apply delivers.outstanding.1.mem_iff.mpr
        exact List.mem_append_left _ (List.mem_map.mpr ⟨x, member, rfl⟩)
    | _ => cases member
  case counted =>
    rw [post, take]
    cases shift with
    | kept queue pending => exact congrArg WorkQueue.inFlight queue
    | posted fits queue pending => exact congrArg WorkQueue.inFlight queue
    | worked works => exact works.count
    | drained delivers =>
        have count := (delivers.counted h.accounted).1
        simp only [List.length_map, List.length_nil]
        omega
  · rw [take, ← delivered]
    rfl
  · intro x member
    exact meets x (delivered ▸ member)

end Balance

section Runs

variable {posted : List Posting} {taken : List (Finished JobOutput)} {d : Dispatcher σ}
  {ms : List (Move σ)}

theorem Paired.run (h : d.Paired posted taken) (own : ∀ m ∈ ms, m.injects = false) :
    (applyAll ms d).Paired (posted ++ (turns ms d).flatMap Turn.posted)
        (taken ++ (turns ms d).flatMap Turn.taken) ∧
      ∀ t ∈ turns ms d, t.Balanced (posted ++ (turns ms d).flatMap Turn.posted) := by
  induction ms generalizing d posted taken with
  | nil =>
      rw [turns, List.flatMap_nil, List.flatMap_nil, List.append_nil, List.append_nil]
      exact ⟨h, nofun⟩
  | cons m rest ih =>
      obtain ⟨new, shift⟩ := shift_move h.accounted (own m List.mem_cons_self)
      have here := shift.balanced h (m := m) rfl
      have next := (h.shift shift).1
      have post : Turn.posted ⟨m, d, m.apply d⟩ = new := shift.posted_eq h.accounted
      have take : Turn.taken ⟨m, d, m.apply d⟩ = (m.deliveries d).map (·.outcome) :=
        shift.taken_eq h.accounted
      rw [← post, ← take] at next
      obtain ⟨last, others⟩ := ih next fun later member => own later (List.mem_cons_of_mem _ member)
      rw [turns, List.flatMap_cons, List.flatMap_cons]
      rw [List.append_assoc, List.append_assoc] at last
      rw [List.append_assoc] at others
      refine ⟨last, ?_⟩
      intro t member
      rcases List.mem_cons.mp member with rfl | further
      · exact here.mono (List.subset_append_left _ _)
      · exact others t further

omit [Host σ] in
theorem new_paired {n : Nat} {host : σ} (made : Dispatcher.new n host = .ok d) : d.Paired [] [] := by
  unfold Dispatcher.new at made
  cases queued : (WorkQueue.new n : Except Panic (WorkQueue Job JobOutput)) with
  | error p =>
      rw [queued] at made
      cases made
  | ok queue =>
      rw [queued] at made
      cases made
      have accounted := WorkQueue.accounted_new queued
      obtain ⟨-, rfl⟩ := WorkQueue.new_eq_ok.mp queued
      exact ⟨accounted, rfl, .refl _, .refl _, nofun, nofun, nofun⟩

/-- Entries and jobs after a run, and in each of its turns. -/
structure Lockstep (ts : List (Turn σ)) (e : Dispatcher σ) : Prop where
  /-- Jobs are numbered as they are posted. -/
  ids : (ts.flatMap Turn.posted).map (·.1) = List.range e.queue.nextId
  /-- An entry is kept for each job that was posted and whose outcome was not taken yet. -/
  keys : ∀ id, id ∈ e.pending.map (·.1) ↔
    id ∈ (ts.flatMap Turn.posted).map (·.1) ∧ id ∉ (ts.flatMap Turn.taken).map (·.id)
  distinct : (e.pending.map (·.1)).Nodup
  size : e.pending.length = e.inFlight
  /-- Whatever an engine makes of the job of an entry is of the entry's kind. -/
  kinds : ∀ id entry, (id, entry) ∈ e.pending → ∃ job, (id, job) ∈ ts.flatMap Turn.posted ∧
    entry.kind = job.kind ∧ ∀ engine o, job.run engine = .ok o → kindOf o = entry.kind
  balanced : ∀ t ∈ ts, t.Balanced (ts.flatMap Turn.posted)

theorem Paired.lockstep {ts : List (Turn σ)}
    (h : d.Paired (ts.flatMap Turn.posted) (ts.flatMap Turn.taken))
    (balanced : ∀ t ∈ ts, t.Balanced (ts.flatMap Turn.posted)) : Lockstep ts d := by
  have ids : ((ts.flatMap Turn.posted).map (·.1)).Nodup := by
    rw [h.numbered]
    exact List.nodup_range
  have apart := (List.nodup_append.mp (h.phases.nodup_iff.mp ids)).2.2
  have posted (id : JobId) : id ∈ (ts.flatMap Turn.posted).map (·.1) ↔
      id ∈ (ts.flatMap Turn.taken).map (·.id) ∨ id ∈ d.pending.map (·.1) := by
    rw [h.phases.mem_iff, List.mem_append, h.keys.mem_iff]
  refine ⟨h.numbered, ?keys, h.distinct, ?size, ?kinds, balanced⟩
  case keys =>
    intro id
    constructor
    · intro there
      refine ⟨(posted id).mpr (.inr there), ?_⟩
      intro gone
      exact apart id gone id (h.keys.mem_iff.mp there) rfl
    · rintro ⟨there, stays⟩
      exact ((posted id).mp there).resolve_left stays
  case size =>
    rw [inFlight, h.accounted.counted, ← h.keys.length_eq, List.length_map]
  case kinds =>
    intro id entry member
    have there := (posted id).mpr (.inr (List.mem_map.mpr ⟨_, member, rfl⟩))
    obtain ⟨⟨own, job⟩, known, same⟩ := List.mem_map.mp there
    cases same
    have kind := h.kinds own entry member job known
    refine ⟨job, known, kind, ?_⟩
    intro engine o made
    have outcome : (job.run engine).mapError JobError.ofPanic = .ok o := by
      rw [made]
      rfl
    exact (kindOf_run outcome).trans kind.symm

/-- Whatever a dispatcher is asked to do, panics included, entries and jobs go in step from beginning to
end. -/
theorem run_lockstep {n : Nat} {host : σ} (made : Dispatcher.new n host = .ok d)
    (own : ∀ m ∈ ms, m.injects = false) : Lockstep (turns ms d) (applyAll ms d) := by
  obtain ⟨paired, balanced⟩ := (new_paired made).run own
  rw [List.nil_append] at paired balanced
  exact paired.lockstep balanced

/-- Three jobs under engines that disagree.  The outcome of the second one gets ahead of the first, and
its callback panics; that drain takes no other outcome, and the two other entries stay. -/
theorem lockstep_past_panic :
    let live : LiveFrame := ⟨⟨1, 2⟩, ⟨"https://a.example/"⟩⟩
    let url : Url := ⟨"https://b.example/"⟩
    let calm : Engine := ⟨fun _ => .ok .ignored⟩
    let broken : Engine := ⟨fun _ => .error .value⟩
    let start : Dispatcher Tripwire := { queue := { free := 2 }, stage := { host := ⟨[live], 7⟩ } }
    let ms : List (Move Tripwire) :=
      [.operate calm (.request [] url .image live.id 8), .operate calm (.rewrite [] url live.id 7),
        .operate calm (.document [] url live.id), .operate calm (.start 0), .operate calm (.start 1),
        .operate broken (.finish 0), .operate calm (.finish 1), .overtake 1, .operate calm .ready]
    Lockstep (turns ms start) (applyAll ms start) ∧
      ((turns ms start).map fun t => (t.posted.map (·.1), t.taken.map (·.id))) =
        [([0], []), ([1], []), ([2], []), ([], []), ([], []), ([], []), ([], []), ([], []), ([], [1])] ∧
      ((applyAll ms start).pending.map fun e => (e.1, e.2.kind)) =
        [(0, .classification), (2, .allowlisting)] := by
  intro live url calm broken start ms
  exact ⟨run_lockstep (n := 2) rfl (by decide), by decide +kernel, by decide +kernel⟩

end Runs

end FilterDispatch.Dispatcher
