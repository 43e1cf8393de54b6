import FilterDispatch.Proofs.Queue
import FilterDispatch.Queue.Run

/-!
The books of a queue.  They balance after any run: each job that was posted is in one phase, the
permits that are not free are those of the jobs that run, and a job that stops yields one outcome,
its own.
-/

namespace FilterDispatch.WorkQueue

variable {ι ο : Type}

namespace Event

def posted? : Event ι ο → Option JobId
  | .posted id _ => some id
  | _ => none

def stopped? : Event ι ο → Option JobId
  | .stopped id => some id
  | _ => none

def taken? : Event ι ο → Option (Finished ο)
  | .taken f => some f
  | _ => none

end Event

theorem filterMap_entered {α β : Type} {f : α → Option β} {x : α} {y : β} (shown : f x = some y)
    (xs : List α) : (xs ++ [x]).filterMap f = xs.filterMap f ++ [y] := by
  simp [shown]

theorem filterMap_unseen {α β : Type} {f : α → Option β} {x : α} (hidden : f x = none)
    (xs : List α) : (xs ++ [x]).filterMap f = xs.filterMap f := by
  simp [hidden]

/-- What a job yields when it stops: its own value, or the text of its own panic. -/
inductive Yields (work : ι → Except Panic ο) (id : JobId) (job : ι) : Finished ο → Prop
  | value {v} : work job = .ok v → Yields work id job ⟨id, .ok v⟩
  | text {t} : work job = .error (.message t) → Yields work id job ⟨id, .error (.panicked t)⟩
  | noText : work job = .error .value →
      Yields work id job ⟨id, .error (.panicked "unknown panic payload")⟩

theorem yields_own (work : ι → Except Panic ο) (id : JobId) (job : ι) :
    Yields work id job ⟨id, (work job).mapError JobError.ofPanic⟩ := by
  cases outcome : work job with
  | ok v => exact .value outcome
  | error p =>
      cases p with
      | message t => exact .text outcome
      | value => exact .noText outcome

/-- The books after these events.  Every id that was posted is listed once among the waiting, the
running, the finished and the taken jobs. -/
structure Books (work : ι → Except Panic ο) (permits : Nat) (es : List (Event ι ο))
    (q : WorkQueue ι ο) : Prop where
  distinct : (es.filterMap Event.posted?).Nodup
  phases : (q.waiting.map (·.1) ++ q.running.map (·.1) ++ q.finished.map (·.id) ++
    (es.filterMap Event.taken?).map (·.id)).Perm (es.filterMap Event.posted?)
  numbered : ∀ id ∈ es.filterMap Event.posted?, id < q.nextId
  counted : q.inFlight = q.waiting.length + q.running.length + q.finished.length
  permits : q.free + q.running.length = permits
  carried : ∀ j ∈ q.waiting ++ q.running, .posted j.1 j.2 ∈ es
  stopped : ((es.filterMap Event.taken? ++ q.finished).map (·.id)).Perm
    (es.filterMap Event.stopped?)
  yields : ∀ f ∈ es.filterMap Event.taken? ++ q.finished,
    ∃ job, .posted f.id job ∈ es ∧ Yields work f.id job f

namespace Books

variable {work : ι → Except Panic ο} {permits : Nat} {es : List (Event ι ο)} {q r : WorkQueue ι ο}

theorem accounted (h : Books work permits es q) : q.Accounted where
  distinct := (h.phases.nodup_iff.mpr h.distinct).of_append_left
  posted id member := h.numbered id (h.phases.subset (List.mem_append_left _ member))
  counted := by simp [h.counted, outstanding, Nat.add_assoc]

theorem note (h : Books work permits es q) {e : Event ι ο} (posted : e.posted? = none)
    (stopped : e.stopped? = none) (taken : e.taken? = none) : Books work permits (es ++ [e]) q := by
  have posted := filterMap_unseen posted es
  have stopped := filterMap_unseen stopped es
  have taken := filterMap_unseen taken es
  refine ⟨posted ▸ h.distinct, ?_, posted ▸ h.numbered, h.counted, h.permits, ?_, ?_, ?_⟩
  · rw [posted, taken]
    exact h.phases
  · exact fun j member => List.mem_append_left _ (h.carried j member)
  · rw [stopped, taken]
    exact h.stopped
  · rw [taken]
    intro f member
    obtain ⟨job, there, own⟩ := h.yields f member
    exact ⟨job, List.mem_append_left _ there, own⟩

theorem overtake (h : Books work permits es q) (id : JobId) :
    Books work permits es (q.overtake id) := by
  have moved : (q.overtake id).finished.Perm q.finished := by
    have split := List.filter_append_perm (fun f : Finished ο => decide (f.id = id)) q.finished
    simpa [WorkQueue.overtake] using split
  refine ⟨h.distinct, ?_, h.numbered, ?_, h.permits, h.carried, ?_, ?_⟩
  · exact (((moved.map _).append_left _).append_right _).trans h.phases
  · exact moved.length_eq ▸ h.counted
  · exact ((moved.append_left _).map _).trans h.stopped
  · exact fun f member => h.yields f ((moved.append_left _).subset member)

theorem post (h : Books work permits es q) (job : ι) :
    Books work permits (es ++ [.posted q.nextId job]) (q.post job).2 := by
  have fresh : q.nextId ∉ es.filterMap Event.posted? :=
    fun member => Nat.lt_irrefl _ (h.numbered _ member)
  let e : Event ι ο := .posted q.nextId job
  have posted := filterMap_entered (f := Event.posted?) (x := e) rfl es
  have taken := filterMap_unseen (f := Event.taken?) (x := e) rfl es
  have stopped := filterMap_unseen (f := Event.stopped?) (x := e) rfl es
  refine ⟨?_, ?_, ?_, ?_, h.permits, ?_, ?_, ?_⟩
  · rw [posted]
    apply (List.perm_append_singleton _ _).nodup_iff.mpr
    exact List.nodup_cons.mpr ⟨fresh, h.distinct⟩
  · rw [posted, taken]
    have more := (outstanding_post q job).append_right ((es.filterMap Event.taken?).map (·.id))
    exact more.trans ((h.phases.cons _).trans (List.perm_append_singleton _ _).symm)
  · rw [posted]
    intro id member
    rcases List.mem_append.mp member with old | new
    · exact Nat.lt_succ_of_lt (h.numbered id old)
    · exact List.mem_singleton.mp new ▸ Nat.lt_succ_self _
  · simp only [WorkQueue.post, List.length_append, List.length_singleton, h.counted]
    omega
  · intro j member
    simp only [WorkQueue.post, List.mem_append, List.mem_singleton] at member
    rcases member with (waits | rfl) | runs
    · exact List.mem_append_left _ (h.carried j (List.mem_append_left _ waits))
    · exact List.mem_append_right _ (List.mem_singleton_self _)
    · exact List.mem_append_left _ (h.carried j (List.mem_append_right _ runs))
  · rw [stopped, taken]
    exact h.stopped
  · rw [taken]
    intro f member
    obtain ⟨other, there, own⟩ := h.yields f member
    exact ⟨other, List.mem_append_left _ there, own⟩

theorem start (h : Books work permits es q) {id : JobId} (started : q.start? id = some r) :
    Books work permits es r := by
  have moved := (outstanding_start? h.accounted started).append_right
    ((es.filterMap Event.taken?).map (·.id))
  obtain ⟨job, found, free, rfl⟩ := start?_eq_some.mp started
  have member := List.mem_of_find?_eq_some found
  have less := (perm_cons_without h.accounted.waiting_distinct member).length_eq
  rw [find?_id found, List.length_cons] at less
  refine ⟨h.distinct, moved.symm.trans h.phases, h.numbered, ?_, ?_, ?_, h.stopped, h.yields⟩
  · simp only [h.counted, List.length_append, List.length_singleton]
    omega
  · simp only [List.length_append, List.length_singleton, ← h.permits]
    omega
  · intro j there
    simp only [List.mem_append, List.mem_singleton] at there
    rcases there with waits | runs | rfl
    · exact h.carried j (List.mem_append_left _ (mem_without.mp waits).1)
    · exact h.carried j (List.mem_append_right _ runs)
    · exact h.carried j (List.mem_append_left _ member)

/-- A job that stops leaves its permit and its outcome, whichever way it ended. -/
theorem finish (h : Books work permits es q) {id : JobId} (done : q.finish? work id = some r) :
    Books work permits (es ++ [.stopped id]) r := by
  let e : Event ι ο := .stopped id
  have posted := filterMap_unseen (f := Event.posted?) (x := e) rfl es
  have taken := filterMap_unseen (f := Event.taken?) (x := e) rfl es
  have stopped := filterMap_entered (f := Event.stopped?) (x := e) rfl es
  have moved := (outstanding_finish? h.accounted done).append_right
    ((es.filterMap Event.taken?).map (·.id))
  obtain ⟨job, found, rfl⟩ := finish?_eq_some.mp done
  have member := List.mem_of_find?_eq_some found
  have less := (perm_cons_without h.accounted.running_distinct member).length_eq
  rw [find?_id found, List.length_cons] at less
  have carried := h.carried job (List.mem_append_right _ member)
  rw [find?_id found] at carried
  refine ⟨posted ▸ h.distinct, ?_, posted ▸ h.numbered, ?_, ?_, ?_, ?_, ?_⟩
  · rw [posted, taken]
    exact moved.symm.trans h.phases
  · simp only [h.counted, List.length_append, List.length_singleton]
    omega
  · simp only [← h.permits]
    omega
  · intro j there
    apply List.mem_append_left
    rcases List.mem_append.mp there with waits | runs
    · exact h.carried j (List.mem_append_left _ waits)
    · exact h.carried j (List.mem_append_right _ (mem_without.mp runs).1)
  · rw [stopped, taken, ← List.append_assoc, List.map_append]
    exact h.stopped.append_right [id]
  · rw [taken]
    intro f there
    rw [← List.append_assoc] at there
    rcases List.mem_append.mp there with old | new
    · obtain ⟨other, known, own⟩ := h.yields f old
      exact ⟨other, List.mem_append_left _ known, own⟩
    · rw [List.mem_singleton.mp new]
      exact ⟨job.2, List.mem_append_left _ carried, yields_own work id job.2⟩

theorem take (h : Books work permits es q) {f : Finished ο} (taken : q.tryNext = some (f, r)) :
    Books work permits (es ++ [.taken f]) r := by
  let e : Event ι ο := .taken f
  have posted := filterMap_unseen (f := Event.posted?) (x := e) rfl es
  have took := filterMap_entered (f := Event.taken?) (x := e) rfl es
  have stopped := filterMap_unseen (f := Event.stopped?) (x := e) rfl es
  obtain ⟨first, rest⟩ := tryNext_eq_some.mp taken
  have same : es.filterMap Event.taken? ++ [f] ++ r.finished =
      es.filterMap Event.taken? ++ q.finished := by
    rw [first, List.append_assoc, List.singleton_append]
  have waiting : r.waiting = q.waiting := by rw [rest]
  have running : r.running = q.running := by rw [rest]
  have phases := h.phases
  rw [rest]
  refine ⟨posted ▸ h.distinct, ?_, posted ▸ h.numbered, ?_, h.permits, ?_, ?_, ?_⟩
  · rw [posted, took, List.map_append, List.map_singleton]
    refine List.Perm.trans ?_ phases
    rw [first, List.map_cons, ← List.append_assoc]
    refine (List.perm_append_singleton _ _).trans ?_
    simp only [List.append_assoc, List.cons_append]
    refine List.Perm.trans ?_ (List.Perm.append_left _ List.perm_middle.symm)
    exact List.perm_middle.symm
  · simp only [h.counted, first, List.length_cons]
    omega
  · exact fun j there => List.mem_append_left _ (h.carried j there)
  · rw [took, stopped, same]
    exact h.stopped
  · rw [took, same]
    intro g member
    obtain ⟨job, there, own⟩ := h.yields g member
    exact ⟨job, List.mem_append_left _ there, own⟩

/-- Whatever the move, the books still balance when its event has been entered. -/
theorem step (h : Books work permits es q) (m : Move ι) :
    Books work permits (es ++ [(q.step work m).1]) (q.step work m).2 := by
  cases m with
  | post job => exact h.post job
  | start id =>
      simp only [WorkQueue.step]
      cases started : q.start? id with
      | none => exact h.note rfl rfl rfl
      | some r => exact (h.start started).note rfl rfl rfl
  | finish id =>
      simp only [WorkQueue.step]
      cases done : q.finish? work id with
      | none => exact h.note rfl rfl rfl
      | some r => exact h.finish done
  | overtake id => exact (h.overtake id).note rfl rfl rfl
  | next =>
      simp only [WorkQueue.step, h.accounted.next_eq]
      cases taken : q.tryNext with
      | none => by_cases idle : q.inFlight = 0 <;> simpa [idle] using h.note rfl rfl rfl
      | some found => exact h.take taken
  | tryNext =>
      simp only [WorkQueue.step]
      cases taken : q.tryNext with
      | none => exact h.note rfl rfl rfl
      | some found => exact h.take taken

theorem run (h : Books work permits es q) (ms : List (Move ι)) :
    Books work permits (es ++ (run work q ms).1) (run work q ms).2 := by
  induction ms generalizing es q with
  | nil => simpa [WorkQueue.run] using h
  | cons m rest ih => simpa [WorkQueue.run] using ih (h.step m)

/-- An outcome that is taken was counted, and waiting is in vain only if there is nothing left. -/
theorem taking (h : Books work permits es q) :
    (q.next = .idle ↔ q.waiting = [] ∧ q.running = [] ∧ q.finished = []) ∧
      ∀ f r, q.next = .taken f r ∨ q.tryNext = some (f, r) → r.inFlight + 1 = q.inFlight := by
  have next := h.accounted.next_eq
  constructor
  · have idle : q.inFlight = 0 ↔ q.waiting = [] ∧ q.running = [] ∧ q.finished = [] := by
      simp only [h.counted, Nat.add_eq_zero_iff, List.length_eq_zero_iff, and_assoc]
    rw [← idle, next]
    cases found : q.tryNext with
    | none => by_cases none : q.inFlight = 0 <;> simp [none]
    | some taken =>
        obtain ⟨first, -⟩ := tryNext_eq_some.mp found
        simp [idle, first]
  · intro f r taken
    have found : q.tryNext = some (f, r) := by
      rcases taken with waited | looked
      · rw [next] at waited
        split at waited
        · next g t found =>
            cases waited
            exact found
        · split at waited <;> cases waited
      · exact looked
    obtain ⟨first, rest⟩ := tryNext_eq_some.mp found
    have counted := h.counted
    rw [first, List.length_cons] at counted
    have less : r.inFlight = q.inFlight - 1 := by rw [rest]
    omega

end Books

/-- The books of a run of a queue for so many jobs at once, and what follows for its owner. -/
structure Balanced (work : ι → Except Panic ο) (maxConcurrent : Nat) (es : List (Event ι ο))
    (q : WorkQueue ι ο) : Prop extends Books work (max 1 maxConcurrent) es q where
  bounded : q.running.length ≤ max 1 maxConcurrent
  idle_iff : q.next = .idle ↔ q.waiting = [] ∧ q.running = [] ∧ q.finished = []
  takes : ∀ f r, q.next = .taken f r ∨ q.tryNext = some (f, r) → r.inFlight + 1 = q.inFlight

/-- After any moves of its owner and its workers the books of a queue balance. -/
theorem run_balanced {n : Nat} {q : WorkQueue ι ο} (made : WorkQueue.new n = .ok q)
    (work : ι → Except Panic ο) (ms : List (Move ι)) :
    Balanced work n (run work q ms).1 (run work q ms).2 := by
  obtain ⟨-, rfl⟩ := new_eq_ok.mp made
  have start : Books work (max 1 n) [] ({ free := max 1 n } : WorkQueue ι ο) :=
    ⟨by simp, by simp, by simp, rfl, rfl, by simp, by simp, by simp⟩
  have books := start.run ms
  rw [List.nil_append] at books
  refine { books with bounded := ?_, idle_iff := books.taking.1, takes := books.taking.2 }
  have permits := books.permits
  omega

/-- Of three jobs on one permit the first panics, without a text; its outcome arrives after that of
the second, and the third still waits. -/
theorem panicked_job_balanced :
    let work : Option Nat → Except Panic Nat := fun job => job.elim (.error .value) .ok
    let q : WorkQueue (Option Nat) Nat := { free := 1 }
    let ms : List (Move (Option Nat)) :=
      [.post none, .post (some 5), .post (some 6), .start 0, .start 1, .finish 0, .start 1, .finish 1,
        .overtake 1, .next]
    Balanced work 0 (run work q ms).1 (run work q ms).2 ∧ (run work q ms).2.free = 1 ∧
      (run work q ms).2.inFlight = 2 := by
  intro work q ms
  exact ⟨run_balanced rfl work ms, rfl, rfl⟩

end FilterDispatch.WorkQueue
