import FilterDispatch.Queue
import Mathlib.Data.List.Nodup
import Mathlib.Data.List.Perm.Basic

/-!
Jobs of a queue on their way from being posted to being taken.  Starting and finishing move a job
from one phase to the next and lose none; the job keeps its id, and its outcome is its own.
-/

namespace FilterDispatch.WorkQueue

variable {ι ο : Type}

theorem new_eq_ok {n : Nat} {q : WorkQueue ι ο} :
    WorkQueue.new n = .ok q ↔ max 1 n ≤ maxPermits ∧ q = { free := max 1 n } := by
  simp only [WorkQueue.new]
  split
  · next excess => simp [Nat.not_le.mpr excess]
  · next fits => simp [Nat.not_lt.mp fits, eq_comm]

theorem start?_eq_some {q r : WorkQueue ι ο} {id : JobId} :
    q.start? id = some r ↔ ∃ job, q.waiting.find? (fun j => j.1 = id) = some job ∧ q.free ≠ 0 ∧
      r = { q with
        free := q.free - 1
        waiting := without id q.waiting
        running := q.running ++ [job] } := by
  unfold start?
  cases found : q.waiting.find? (fun j => j.1 = id) with
  | none => simp
  | some job =>
      by_cases none : q.free = 0
      · simp [none]
      · simp [none, eq_comm]

theorem finish?_eq_some {run : ι → Except Panic ο} {q r : WorkQueue ι ο} {id : JobId} :
    q.finish? run id = some r ↔ ∃ job, q.running.find? (fun j => j.1 = id) = some job ∧
      r = { q with
        free := q.free + 1
        running := without id q.running
        finished := q.finished ++ [⟨id, (run job.2).mapError JobError.ofPanic⟩] } := by
  unfold finish?
  cases found : q.running.find? (fun j => j.1 = id) with
  | none => simp
  | some job => simp [eq_comm]

theorem tryNext_eq_some {q r : WorkQueue ι ο} {f : Finished ο} :
    q.tryNext = some (f, r) ↔ q.finished = f :: r.finished ∧
      r = { q with inFlight := q.inFlight - 1, finished := r.finished } := by
  unfold tryNext
  cases q with
  | mk free nextId inFlight waiting running finished =>
      cases finished with
      | nil => simp
      | cons g rest =>
          cases r
          simp only [Option.some.injEq, Prod.mk.injEq, mk.injEq, List.cons.injEq]
          constructor
          · rintro ⟨rfl, rfl, rfl, rfl, rfl, rfl, rfl⟩
            simp
          · rintro ⟨⟨rfl, rfl⟩, rfl, rfl, rfl, rfl, rfl, -⟩
            simp

theorem tryNext_eq_none {q : WorkQueue ι ο} : q.tryNext = none ↔ q.finished = [] := by
  unfold tryNext
  cases q.finished with
  | nil => simp
  | cons f rest => simp

theorem find?_id {jobs : List (JobId × ι)} {id : JobId} {job : JobId × ι}
    (found : jobs.find? (fun j => j.1 = id) = some job) : job.1 = id := by
  simpa using List.find?_some found

theorem perm_cons_without {jobs : List (JobId × ι)} {job : JobId × ι}
    (distinct : (jobs.map (·.1)).Nodup) (member : job ∈ jobs) :
    jobs.Perm (job :: without job.1 jobs) := by
  obtain ⟨before, behind, rfl⟩ := List.append_of_mem member
  simp only [List.map_append, List.map_cons, List.nodup_append, List.nodup_cons,
    List.mem_cons] at distinct
  have earlier : before.filter (fun j => j.1 ≠ job.1) = before :=
    List.filter_eq_self.mpr fun j there => by
      simpa using distinct.2.2 j.1 (List.mem_map.mpr ⟨j, there, rfl⟩) job.1 (.inl rfl)
  have later : behind.filter (fun j => j.1 ≠ job.1) = behind :=
    List.filter_eq_self.mpr fun j there => by
      simpa using fun equal : j.1 = job.1 =>
        distinct.2.1.1 (List.mem_map.mpr ⟨j, there, equal⟩)
  have rest : without job.1 (before ++ job :: behind) = before ++ behind := by
    simp only [without, List.filter_append, List.filter_cons, earlier, later, ne_eq,
      not_true_eq_false, decide_false, Bool.false_eq_true, if_false]
  rw [rest]
  exact List.perm_middle

/-- The jobs that were posted and not taken yet, phase by phase. -/
def outstanding (q : WorkQueue ι ο) : List JobId :=
  q.waiting.map (·.1) ++ q.running.map (·.1) ++ q.finished.map (·.id)

/-- Each job in flight is in one place, and all of them are counted. -/
structure Accounted (q : WorkQueue ι ο) : Prop where
  distinct : q.outstanding.Nodup
  posted : ∀ id ∈ q.outstanding, id < q.nextId
  counted : q.inFlight = q.outstanding.length

theorem Accounted.waiting_distinct {q : WorkQueue ι ο} (h : q.Accounted) :
    (q.waiting.map (·.1)).Nodup :=
  (List.nodup_append.mp (List.nodup_append.mp h.distinct).1).1

theorem Accounted.running_distinct {q : WorkQueue ι ο} (h : q.Accounted) :
    (q.running.map (·.1)).Nodup :=
  (List.nodup_append.mp (List.nodup_append.mp h.distinct).1).2.1

theorem outstanding_start? {q r : WorkQueue ι ο} {id : JobId} (h : q.Accounted)
    (started : q.start? id = some r) : q.outstanding.Perm r.outstanding := by
  obtain ⟨job, found, -, rfl⟩ := start?_eq_some.mp started
  have member := List.mem_of_find?_eq_some found
  have moved := (perm_cons_without h.waiting_distinct member).map (·.1)
  rw [find?_id found] at moved
  simp only [outstanding, List.map_append, List.map_cons, List.map_nil] at moved ⊢
  apply List.Perm.append_right _
  apply (moved.append_right _).trans
  rw [List.cons_append, ← List.append_assoc]
  exact (List.perm_append_singleton _ _).symm

theorem outstanding_finish? {run : ι → Except Panic ο} {q r : WorkQueue ι ο} {id : JobId}
    (h : q.Accounted) (done : q.finish? run id = some r) :
    q.outstanding.Perm r.outstanding := by
  obtain ⟨job, found, rfl⟩ := finish?_eq_some.mp done
  have member := List.mem_of_find?_eq_some found
  have same := find?_id found
  have moved := (perm_cons_without h.running_distinct member).map (·.1)
  rw [same] at moved
  simp only [outstanding, List.map_append, List.map_cons, List.map_nil, same] at moved ⊢
  rw [List.append_assoc, List.append_assoc]
  apply List.Perm.append_left _
  apply (moved.append_right _).trans
  rw [List.cons_append, ← List.append_assoc]
  exact (List.perm_append_singleton _ _).symm

theorem outstanding_post (q : WorkQueue ι ο) (job : ι) :
    (q.post job).2.outstanding.Perm (q.nextId :: q.outstanding) := by
  simp only [post, outstanding, List.map_append, List.map_cons, List.map_nil, List.append_assoc,
    List.singleton_append]
  exact List.perm_middle

theorem outstanding_tryNext {q r : WorkQueue ι ο} {f : Finished ο}
    (taken : q.tryNext = some (f, r)) : q.outstanding.Perm (f.id :: r.outstanding) := by
  obtain ⟨first, rest⟩ := tryNext_eq_some.mp taken
  rw [rest]
  simp only [outstanding, first, List.map_cons]
  exact List.perm_middle

theorem accounted_new {n : Nat} {q : WorkQueue ι ο} (made : WorkQueue.new n = .ok q) :
    q.Accounted := by
  obtain ⟨-, rfl⟩ := new_eq_ok.mp made
  exact ⟨List.nodup_nil, by simp [outstanding], rfl⟩

theorem Accounted.of_perm {q r : WorkQueue ι ο} (h : q.Accounted)
    (moved : q.outstanding.Perm r.outstanding) (ids : r.nextId = q.nextId)
    (count : r.inFlight = q.inFlight) : r.Accounted where
  distinct := moved.nodup_iff.mp h.distinct
  posted id member := by
    rw [ids]
    exact h.posted id (moved.mem_iff.mpr member)
  counted := by rw [count, h.counted, moved.length_eq]

theorem Accounted.start? {q r : WorkQueue ι ο} {id : JobId} (h : q.Accounted)
    (started : q.start? id = some r) : r.Accounted := by
  have moved := outstanding_start? h started
  obtain ⟨job, -, -, rfl⟩ := start?_eq_some.mp started
  exact h.of_perm moved rfl rfl

theorem Accounted.finish? {run : ι → Except Panic ο} {q r : WorkQueue ι ο} {id : JobId}
    (h : q.Accounted) (done : q.finish? run id = some r) : r.Accounted := by
  have moved := outstanding_finish? h done
  obtain ⟨job, -, rfl⟩ := finish?_eq_some.mp done
  exact h.of_perm moved rfl rfl

theorem Accounted.nextId_fresh {q : WorkQueue ι ο} (h : q.Accounted) :
    q.nextId ∉ q.outstanding :=
  fun member => Nat.lt_irrefl _ (h.posted _ member)

theorem Accounted.post {q : WorkQueue ι ο} (h : q.Accounted) (job : ι) :
    (q.post job).2.Accounted := by
  have more := outstanding_post q job
  refine ⟨?_, ?_, ?_⟩
  · exact more.nodup_iff.mpr (List.nodup_cons.mpr ⟨h.nextId_fresh, h.distinct⟩)
  · intro id member
    rcases List.mem_cons.mp (more.mem_iff.mp member) with rfl | old
    · exact Nat.lt_succ_self _
    · exact Nat.lt_succ_of_lt (h.posted id old)
  · rw [more.length_eq, List.length_cons, ← h.counted]
    rfl

theorem Accounted.tryNext {q r : WorkQueue ι ο} {f : Finished ο} (h : q.Accounted)
    (taken : q.tryNext = some (f, r)) : r.Accounted ∧ f.id ∉ r.outstanding := by
  have less := outstanding_tryNext taken
  have distinct := List.nodup_cons.mp (less.nodup_iff.mp h.distinct)
  obtain ⟨-, rest⟩ := tryNext_eq_some.mp taken
  have ids : r.nextId = q.nextId := by rw [rest]
  have count : r.inFlight = q.inFlight - 1 := by rw [rest]
  refine ⟨⟨distinct.2, ?_, ?_⟩, distinct.1⟩
  · intro id member
    rw [ids]
    exact h.posted id (less.mem_iff.mpr (List.mem_cons_of_mem _ member))
  · rw [count, h.counted, less.length_eq, List.length_cons, Nat.add_sub_cancel]

theorem Accounted.idle_iff {q : WorkQueue ι ο} (h : q.Accounted) :
    q.inFlight = 0 ↔ q.outstanding = [] := by
  rw [h.counted, List.length_eq_zero_iff]

/-- With nothing in flight there is nothing to take, so waiting and looking agree. -/
theorem Accounted.next_eq {q : WorkQueue ι ο} (h : q.Accounted) :
    q.next = match q.tryNext with
      | some (f, r) => .taken f r
      | none => if q.inFlight = 0 then .idle else .pending := by
  unfold next
  by_cases idle : q.inFlight = 0
  · have empty := h.idle_iff.mp idle
    have nothing : q.tryNext = none := by
      rw [tryNext_eq_none]
      simpa using (List.append_eq_nil_iff.mp empty).2
    rw [if_pos idle, nothing, if_pos idle]
  · rw [if_neg idle]
    cases q.tryNext with
    | none => rw [if_neg idle]
    | some taken => rfl

/-- The job waits or runs, or the outcome that is to be taken is its own. -/
def Carries (run : ι → Except Panic ο) (q : WorkQueue ι ο) (id : JobId) (job : ι) : Prop :=
  (id, job) ∈ q.waiting ∨ (id, job) ∈ q.running ∨
    ⟨id, (run job).mapError JobError.ofPanic⟩ ∈ q.finished

theorem Carries.mem_outstanding {run : ι → Except Panic ο} {q : WorkQueue ι ο} {id : JobId}
    {job : ι} (h : q.Carries run id job) : id ∈ q.outstanding := by
  simp only [outstanding, List.mem_append, List.mem_map]
  rcases h with waits | runs | done
  · exact .inl (.inl ⟨_, waits, rfl⟩)
  · exact .inl (.inr ⟨_, runs, rfl⟩)
  · exact .inr ⟨_, done, rfl⟩

theorem carries_post (run : ι → Except Panic ο) (q : WorkQueue ι ο) (job : ι) :
    (q.post job).2.Carries run q.nextId job :=
  .inl (List.mem_append_right _ (List.mem_singleton_self _))

theorem Carries.post {run : ι → Except Panic ο} {q : WorkQueue ι ο} {id : JobId} {job : ι}
    (h : q.Carries run id job) (more : ι) : (q.post more).2.Carries run id job := by
  rcases h with waits | runs | done
  · exact .inl (List.mem_append_left _ waits)
  · exact .inr (.inl runs)
  · exact .inr (.inr done)

theorem mem_without {jobs : List (JobId × ι)} {id : JobId} {j : JobId × ι} :
    j ∈ without id jobs ↔ j ∈ jobs ∧ j.1 ≠ id := by
  simp [without, List.mem_filter]

theorem eq_of_found {jobs : List (JobId × ι)} {id : JobId} {job : ι} {other : JobId × ι}
    (distinct : (jobs.map (·.1)).Nodup) (member : (id, job) ∈ jobs)
    (found : jobs.find? (fun j => j.1 = id) = some other) : other = (id, job) :=
  List.inj_on_of_nodup_map distinct (List.mem_of_find?_eq_some found) member (find?_id found)

theorem Carries.start? {run : ι → Except Panic ο} {q r : WorkQueue ι ο} {id started : JobId}
    {job : ι} (h : q.Carries run id job) (accounted : q.Accounted)
    (step : q.start? started = some r) : r.Carries run id job := by
  obtain ⟨other, found, -, rfl⟩ := start?_eq_some.mp step
  rcases h with waits | runs | done
  · by_cases same : id = started
    · subst same
      rw [eq_of_found accounted.waiting_distinct waits found]
      exact .inr (.inl (List.mem_append_right _ (List.mem_singleton_self _)))
    · exact .inl (mem_without.mpr ⟨waits, same⟩)
  · exact .inr (.inl (List.mem_append_left _ runs))
  · exact .inr (.inr done)

theorem Carries.finish? {run : ι → Except Panic ο} {q r : WorkQueue ι ο} {id ended : JobId}
    {job : ι} (h : q.Carries run id job) (accounted : q.Accounted)
    (step : q.finish? run ended = some r) : r.Carries run id job := by
  obtain ⟨other, found, rfl⟩ := finish?_eq_some.mp step
  rcases h with waits | runs | done
  · exact .inl waits
  · by_cases same : id = ended
    · subst same
      rw [eq_of_found accounted.running_distinct runs found]
      exact .inr (.inr (List.mem_append_right _ (List.mem_singleton_self _)))
    · exact .inr (.inl (mem_without.mpr ⟨runs, same⟩))
  · exact .inr (.inr (List.mem_append_left _ done))

/-- What is taken under the id of a job is the job's own outcome. -/
theorem Carries.tryNext {run : ι → Except Panic ο} {q r : WorkQueue ι ο} {id : JobId} {job : ι}
    {f : Finished ο} (h : q.Carries run id job) (accounted : q.Accounted)
    (taken : q.tryNext = some (f, r)) :
    if f.id = id then f = ⟨id, (run job).mapError JobError.ofPanic⟩
    else r.Carries run id job := by
  have fresh := (accounted.tryNext taken).2
  obtain ⟨first, rest⟩ := tryNext_eq_some.mp taken
  have kept : (id, job) ∈ q.waiting ∨ (id, job) ∈ q.running ∨
      ⟨id, (run job).mapError JobError.ofPanic⟩ ∈ r.finished →
      r.Carries run id job := by
    intro somewhere
    rw [rest]
    exact somewhere
  have still : f = ⟨id, (run job).mapError JobError.ofPanic⟩ ∨ r.Carries run id job := by
    rcases h with waits | runs | done
    · exact .inr (kept (.inl waits))
    · exact .inr (kept (.inr (.inl runs)))
    · rw [first] at done
      rcases List.mem_cons.mp done with same | later
      · exact .inl same.symm
      · exact .inr (kept (.inr (.inr later)))
  split
  · next same =>
      rcases still with own | carried
      · exact own
      · exact absurd (same ▸ carried.mem_outstanding) fresh
  · next other =>
      rcases still with own | carried
      · exact absurd (congrArg Finished.id own) other
      · exact carried

end FilterDispatch.WorkQueue
