import FilterDispatch.Proofs.Queue

/-!
The workers of a queue beside its owner.  Jobs start and end in any order, and the owner finds their
outcomes in the order in which they arrive.
-/

namespace FilterDispatch.WorkQueue

variable {ι ο : Type}

/-- The workers went on, and these outcomes arrived, each behind those that were there.  What they are
is left open, and a permit may be back before the outcome of its job arrives. -/
structure Worked (q r : WorkQueue ι ο) (arrived : List (Finished ο)) : Prop where
  jobs : q.outstanding.Perm r.outstanding
  ids : r.nextId = q.nextId
  count : r.inFlight = q.inFlight
  arrives : r.finished = q.finished ++ arrived
  permits : q.free + q.running.length ≤ r.free + r.running.length

namespace Worked

variable {q r t : WorkQueue ι ο} {first later : List (Finished ο)}

theorem accounted (worked : Worked q r first) (h : q.Accounted) : r.Accounted :=
  h.of_perm worked.jobs worked.ids worked.count

theorem refl (q : WorkQueue ι ο) : Worked q q [] :=
  ⟨.refl _, rfl, rfl, (List.append_nil _).symm, Nat.le_refl _⟩

theorem trans (worked : Worked q r first) (more : Worked r t later) :
    Worked q t (first ++ later) where
  jobs := worked.jobs.trans more.jobs
  ids := more.ids.trans worked.ids
  count := more.count.trans worked.count
  arrives := by rw [more.arrives, worked.arrives, List.append_assoc]
  permits := Nat.le_trans worked.permits more.permits

theorem nothing (worked : Worked q r first) (h : q.Accounted) (idle : q.inFlight = 0) :
    first = [] := by
  have none : r.outstanding = [] :=
    (worked.accounted h).idle_iff.mp (worked.count.trans idle)
  have empty : r.finished = [] := by simpa using (List.append_eq_nil_iff.mp none).2
  rw [worked.arrives] at empty
  exact (List.append_eq_nil_iff.mp empty).2

end Worked

theorem worked_start? {q r : WorkQueue ι ο} {id : JobId} (h : q.Accounted)
    (started : q.start? id = some r) : Worked q r [] := by
  have jobs := outstanding_start? h started
  obtain ⟨job, found, some, rfl⟩ := start?_eq_some.mp started
  refine ⟨jobs, rfl, rfl, (List.append_nil _).symm, ?_⟩
  simp only [List.length_append, List.length_singleton]
  omega

theorem finish?_permits {run : ι → Except Panic ο} {q r : WorkQueue ι ο} {id : JobId}
    (h : q.Accounted) (done : q.finish? run id = some r) :
    q.free + q.running.length = r.free + r.running.length := by
  obtain ⟨job, found, rfl⟩ := finish?_eq_some.mp done
  have fewer := (perm_cons_without h.running_distinct (List.mem_of_find?_eq_some found)).length_eq
  rw [find?_id found] at fewer
  simp only [List.length_cons] at fewer ⊢
  omega

theorem worked_finish? {run : ι → Except Panic ο} {q r : WorkQueue ι ο} {id : JobId}
    (h : q.Accounted) (done : q.finish? run id = some r) : ∃ f, Worked q r [f] := by
  have jobs := outstanding_finish? h done
  have permits := finish?_permits h done
  obtain ⟨job, found, rfl⟩ := finish?_eq_some.mp done
  exact ⟨_, jobs, rfl, rfl, rfl, Nat.le_of_eq permits⟩

/-- How many moves the workers have still to make: each job starts and ends. -/
def unended (q : WorkQueue ι ο) : Nat :=
  2 * q.waiting.length + q.running.length

theorem unended_start? {q r : WorkQueue ι ο} {id : JobId} (h : q.Accounted)
    (started : q.start? id = some r) : r.unended < q.unended := by
  obtain ⟨job, found, -, rfl⟩ := start?_eq_some.mp started
  have fewer := (perm_cons_without h.waiting_distinct (List.mem_of_find?_eq_some found)).length_eq
  rw [find?_id found] at fewer
  simp only [unended, List.length_cons, List.length_append, List.length_nil] at fewer ⊢
  omega

theorem unended_finish? {run : ι → Except Panic ο} {q r : WorkQueue ι ο} {id : JobId}
    (h : q.Accounted) (done : q.finish? run id = some r) : r.unended < q.unended := by
  obtain ⟨job, found, rfl⟩ := finish?_eq_some.mp done
  have fewer := (perm_cons_without h.running_distinct (List.mem_of_find?_eq_some found)).length_eq
  rw [find?_id found] at fewer
  simp only [unended, List.length_cons] at fewer ⊢
  omega

theorem find?_head {jobs : List (JobId × ι)} {job : JobId × ι} {rest : List (JobId × ι)}
    (first : jobs = job :: rest) : jobs.find? (fun j => j.1 = job.1) = some job := by
  simp [first]

/-- As long as a job has not ended, one can start or end. -/
theorem can_work (run : ι → Except Panic ο) {q : WorkQueue ι ο}
    (permits : 0 < q.free + q.running.length) (left : q.waiting ≠ [] ∨ q.running ≠ []) :
    ∃ id r, q.start? id = some r ∨ q.finish? run id = some r := by
  cases running : q.running with
  | cons job rest =>
      exact ⟨job.1, _, .inr (finish?_eq_some.mpr ⟨job, find?_head running, rfl⟩)⟩
  | nil =>
      obtain ⟨job, rest, waiting⟩ := List.exists_cons_of_ne_nil
        (left.resolve_right (not_not_intro running))
      rw [running, List.length_nil] at permits
      exact ⟨job.1, _, .inl
        (start?_eq_some.mpr ⟨job, find?_head waiting, Nat.ne_of_gt permits, rfl⟩)⟩

/-- The queue with the jobs that another one has not ended, and with its permits. -/
def withWorkers (r q : WorkQueue ι ο) : WorkQueue ι ο :=
  { q with free := r.free, waiting := r.waiting, running := r.running }

theorem eq_withWorkers {q r : WorkQueue ι ο} (ids : r.nextId = q.nextId)
    (count : r.inFlight = q.inFlight) (left : r.finished = q.finished) : r = r.withWorkers q := by
  rw [withWorkers, ← ids, ← count, ← left]

end FilterDispatch.WorkQueue
