import FilterDispatch.Proofs.Dispatcher.Outcomes
import FilterDispatch.Proofs.Queue

/-!
Deliveries.  Every way of draining takes outcomes off the queue one after the other and delivers
each before it takes the next; between them the jobs in the queue and the entries that are kept for
them stay in step.
-/

namespace FilterDispatch

namespace Dispatcher

variable {σ : Type}

/-- What is kept belongs to the jobs that were posted and not taken yet, to each one entry of its
kind. -/
structure InStep (engine : Engine) (d : Dispatcher σ) : Prop where
  accounted : d.queue.Accounted
  keys : (d.pending.map (·.1)).Perm d.queue.outstanding
  kinds : ∀ id entry, (id, entry) ∈ d.pending →
    ∃ job, d.queue.Carries (Job.run engine) id job ∧ entry.kind = job.kind

/-- A job with what is kept for it, on its way. -/
structure Holds (engine : Engine) (id : JobId) (job : Job) (entry : Pending) (d : Dispatcher σ) :
    Prop where
  kept : (id, entry) ∈ d.pending
  carried : d.queue.Carries (Job.run engine) id job

theorem InStep.distinct {engine : Engine} {d : Dispatcher σ} (h : d.InStep engine) :
    (d.pending.map (·.1)).Nodup :=
  h.keys.nodup_iff.mpr h.accounted.distinct

theorem lookup_eq_some {α : Type} {entries : List (JobId × α)} {id : JobId} {entry : α}
    (distinct : (entries.map (·.1)).Nodup) :
    entries.lookup id = some entry ↔ (id, entry) ∈ entries := by
  induction entries with
  | nil => simp
  | cons e rest ih =>
      obtain ⟨key, value⟩ := e
      simp only [List.map_cons, List.nodup_cons] at distinct
      by_cases same : id = key
      · subst same
        have absent : (id, entry) ∉ rest := fun member =>
          distinct.1 (List.mem_map.mpr ⟨_, member, rfl⟩)
        simp [absent, eq_comm]
      · have other : (id == key) = false := by simpa using same
        rw [List.lookup_cons, other, ih distinct.2]
        simp [same]

theorem lookup_filter_ne {α : Type} {entries : List (JobId × α)} {id other : JobId}
    (differs : id ≠ other) :
    (entries.filter fun e => e.1 ≠ other).lookup id = entries.lookup id := by
  induction entries with
  | nil => rfl
  | cons e rest ih =>
      obtain ⟨key, value⟩ := e
      by_cases same : key = other
      · have unlike : (id == key) = false := by simpa [same] using differs
        rw [List.filter_cons_of_neg (by simp [same]), ih, List.lookup_cons, unlike]
      · rw [List.filter_cons_of_pos (by simp [same]), List.lookup_cons, List.lookup_cons, ih]

theorem InStep.lookup {engine : Engine} {d : Dispatcher σ} (h : d.InStep engine) {id : JobId}
    {entry : Pending} : d.pending.lookup id = some entry ↔ (id, entry) ∈ d.pending :=
  lookup_eq_some h.distinct

theorem InStep.of_keeps {engine : Engine} {P : Effect → Prop} {d e : Dispatcher σ}
    (h : d.InStep engine) (kept : Keeps P d e) : e.InStep engine where
  accounted := by
    rw [kept.queue]
    exact h.accounted
  keys := by
    rw [kept.queue, kept.pending]
    exact h.keys
  kinds := by
    rw [kept.queue, kept.pending]
    exact h.kinds

theorem InStep.posting {engine : Engine} {d : Dispatcher σ} (h : d.InStep engine) {job : Job}
    {entry : Pending} (fits : entry.kind = job.kind) : (d.posting job entry).InStep engine where
  accounted := h.accounted.post job
  keys := by
    simp only [Dispatcher.posting, List.map_append, List.map_cons, List.map_nil]
    apply (List.perm_append_singleton _ _).trans
    exact (h.keys.cons _).trans (WorkQueue.outstanding_post d.queue job).symm
  kinds id other member := by
    rcases List.mem_append.mp member with old | new
    · obtain ⟨j, carried, same⟩ := h.kinds id other old
      exact ⟨j, carried.post job, same⟩
    · cases List.mem_singleton.mp new
      exact ⟨job, WorkQueue.carries_post _ d.queue job, fits⟩

theorem InStep.work {engine : Engine} {d : Dispatcher σ} (h : d.InStep engine)
    {queue : WorkQueue Job JobOutput} (accounted : queue.Accounted)
    (moved : d.queue.outstanding.Perm queue.outstanding)
    (carries : ∀ id job, d.queue.Carries (Job.run engine) id job →
      queue.Carries (Job.run engine) id job) :
    ({ d with queue } : Dispatcher σ).InStep engine where
  accounted := accounted
  keys := h.keys.trans moved
  kinds id entry member := by
    obtain ⟨job, carried, same⟩ := h.kinds id entry member
    exact ⟨job, carries id job carried, same⟩

theorem new_host {n : Nat} {host : σ} {d : Dispatcher σ} (made : Dispatcher.new n host = .ok d) :
    d.stage.host = host := by
  unfold Dispatcher.new at made
  split at made
  · cases made
    rfl
  · cases made

theorem new_observers {n : Nat} {host : σ} {d : Dispatcher σ}
    (made : Dispatcher.new n host = .ok d) : d.observers = {} := by
  unfold Dispatcher.new at made
  split at made
  · cases made
    rfl
  · cases made

theorem new_inStep (engine : Engine) {n : Nat} {host : σ} {d : Dispatcher σ}
    (made : Dispatcher.new n host = .ok d) : d.InStep engine ∧ d.pending = [] ∧
      d.stage.effects = [] := by
  unfold Dispatcher.new at made
  cases queued : (WorkQueue.new n : Except Panic (WorkQueue Job JobOutput)) with
  | error p =>
      rw [queued] at made
      cases made
  | ok queue =>
      rw [queued] at made
      cases made
      have empty : queue.outstanding = [] := by
        obtain ⟨-, rfl⟩ := WorkQueue.new_eq_ok.mp queued
        rfl
      refine ⟨⟨WorkQueue.accounted_new queued, ?_, by simp⟩, rfl, rfl⟩
      rw [empty]
      exact List.Perm.nil

/-- A job that was taken never comes back. -/
def Spent (id : JobId) (d : Dispatcher σ) : Prop :=
  id < d.queue.nextId ∧ id ∉ d.queue.outstanding

/-- An outcome that was taken off the queue, and the dispatcher before and after its delivery. -/
structure Delivery (σ : Type) where
  outcome : Finished JobOutput
  before : Dispatcher σ
  after : Dispatcher σ

/-- What happened on the control sequence between two states. -/
def effectsSince (d e : Dispatcher σ) : List Effect :=
  e.stage.effects.drop d.stage.effects.length

theorem effectsSince_eq {d e : Dispatcher σ} {new : List Effect}
    (grown : e.stage.effects = d.stage.effects ++ new) : effectsSince d e = new := by
  rw [effectsSince, grown, List.drop_left]

theorem effectsSince_same {d e : Dispatcher σ} (same : e.stage = d.stage) :
    effectsSince d e = [] := by
  rw [effectsSince, same, List.drop_length]

def Delivery.effects (x : Delivery σ) : List Effect :=
  effectsSince x.before x.after

variable [Host σ]

/-- The outcomes that are delivered from here on, so many at most; a panic ends it. -/
def deliveries : Nat → Dispatcher σ → List (Delivery σ)
  | 0, _ => []
  | n + 1, d =>
    match d.queue.tryNext with
    | none => []
    | some (f, queue) =>
      let taken := { d with queue }
      match complete f taken with
      | .ok _ e => ⟨f, taken, e⟩ :: deliveries n e
      | .error _ e => [⟨f, taken, e⟩]

inductive Delivers : Dispatcher σ → List (Delivery σ) → Dispatcher σ → Prop
  | done (d : Dispatcher σ) : Delivers d [] d
  | next {d f queue rest e} : d.queue.tryNext = some (f, queue) →
      Delivers (Control.final (complete f) { d with queue }) rest e →
      Delivers d (⟨f, { d with queue }, Control.final (complete f) { d with queue }⟩ :: rest) e

theorem deliveries_of_none {d : Dispatcher σ} (n : Nat) (nothing : d.queue.tryNext = none) :
    deliveries n d = [] := by
  cases n with
  | zero => rfl
  | succ n => simp only [deliveries, nothing]

/-- Outcomes are taken in their order, each delivered before the next one is taken; a panic ends the
drain in the delivery that it happens in. -/
inductive Drained : Dispatcher σ → List (Delivery σ) → Option Panic → Dispatcher σ → Prop
  | done (d : Dispatcher σ) : Drained d [] none d
  | next {d f queue e xs r t} : d.queue.tryNext = some (f, queue) →
      complete f { d with queue } = .ok () e → Drained e xs r t →
      Drained d (⟨f, { d with queue }, e⟩ :: xs) r t
  | panicked {d f queue p e} : d.queue.tryNext = some (f, queue) →
      complete f { d with queue } = .error p e → Drained d [⟨f, { d with queue }, e⟩] (some p) e

theorem Drained.delivers {d e : Dispatcher σ} {xs : List (Delivery σ)} {r : Option Panic}
    (drained : Drained d xs r e) : Delivers d xs e := by
  induction drained with
  | done d => exact .done d
  | next found completed rest ih =>
      have same := Control.final_ok completed
      subst same
      exact .next found ih
  | panicked found completed =>
      have same := Control.final_error completed
      subst same
      exact .next found (.done _)

/-- A drain that ends wherever it finds no outcome makes all the deliveries that there are. -/
theorem Drained.of_drain (drain : Nat → Dispatcher σ → Option Panic × Dispatcher σ)
    (stops : ∀ d, drain 0 d = (none, d)) (n : Nat) (d : Dispatcher σ)
    (accounted : d.queue.Accounted)
    (waits : ∀ n d, d.queue.tryNext = none → drain n d = (none, d))
    (goes : ∀ n d f queue e, d.queue.Accounted → d.queue.tryNext = some (f, queue) →
      complete f { d with queue } = .ok () e → drain (n + 1) d = drain n e)
    (ends : ∀ n d f queue p e, d.queue.Accounted → d.queue.tryNext = some (f, queue) →
      complete f { d with queue } = .error p e → drain (n + 1) d = (some p, e)) :
    Drained d (deliveries n d) (drain n d).1 (drain n d).2 := by
  induction n generalizing d with
  | zero =>
      rw [stops]
      exact .done d
  | succ n ih =>
      cases found : d.queue.tryNext with
      | none =>
          rw [deliveries_of_none _ found, waits _ _ found]
          exact .done d
      | some taken =>
          obtain ⟨f, queue⟩ := taken
          cases completed : complete f { d with queue } with
          | ok _ e =>
              have again : e.queue.Accounted := by
                rw [← Control.final_ok completed, complete_queue]
                exact (accounted.tryNext found).1
              simp only [deliveries, found, completed]
              rw [goes n d f queue e accounted found completed]
              exact .next found completed (ih e again)
          | error p e =>
              simp only [deliveries, found, completed]
              rw [ends n d f queue p e accounted found completed]
              exact .panicked found completed

/-- The outcome of a job comes back under its own entry, which goes with it. -/
theorem InStep.deliver {engine : Engine} {d : Dispatcher σ} (h : d.InStep engine)
    {f : Finished JobOutput} {queue : WorkQueue Job JobOutput}
    (found : d.queue.tryNext = some (f, queue)) :
    (Control.final (complete f) { d with queue }).InStep engine ∧
      ∃ entry, d.pending.lookup f.id = some entry ∧
        ∃ new, (Control.final (complete f) { d with queue }).stage.effects =
            d.stage.effects ++ new ∧
          new.filterMap Effect.answer? = (entry.reply? f.output).toList ∧
          new.filterMap Effect.pass? = (entry.due f.output d.stage.host).toList ∧
          (Control.final (complete f) { d with queue }).pending =
            d.pending.filter (fun e => e.1 ≠ f.id) := by
  have less := WorkQueue.outstanding_tryNext found
  have after := (h.accounted.tryNext found).1
  have mine : f.id ∈ d.pending.map (·.1) :=
    h.keys.mem_iff.mpr (less.mem_iff.mpr List.mem_cons_self)
  obtain ⟨⟨id, entry⟩, member, same⟩ := List.mem_map.mp mine
  simp only at same
  subst same
  have known : d.pending.lookup f.id = some entry := h.lookup.mpr member
  obtain ⟨new, effects, answers, passes, queued, pending⟩ := complete_summary f { d with queue }
  rw [known] at answers passes
  refine ⟨?_, entry, known, new, effects, answers, passes, pending⟩
  refine ⟨by rw [queued]; exact after, ?_, ?_⟩
  · rw [pending, queued]
    have rest : (d.pending.filter fun e => e.1 ≠ f.id).map (·.1) =
        (d.pending.map (·.1)).filter (· ≠ f.id) := by
      rw [List.filter_map]
      rfl
    change ((d.pending.filter fun e => e.1 ≠ f.id).map (·.1)).Perm queue.outstanding
    rw [rest]
    apply ((h.keys.trans less).filter _).trans
    rw [List.filter_cons_of_neg (by simp)]
    have others : queue.outstanding.filter (· ≠ f.id) = queue.outstanding :=
      List.filter_eq_self.mpr fun id there => by
        have fresh := (h.accounted.tryNext found).2
        simpa using fun equal : id = f.id => fresh (equal ▸ there)
    rw [others]
  · intro id other member
    rw [pending] at member
    obtain ⟨old, differs⟩ := List.mem_filter.mp member
    obtain ⟨job, carried, kind⟩ := h.kinds id other old
    have still := carried.tryNext h.accounted found
    rw [if_neg fun equal => of_decide_eq_true differs equal.symm] at still
    rw [queued]
    exact ⟨job, still, kind⟩

theorem Delivers.inStep {engine : Engine} {d e : Dispatcher σ} {xs : List (Delivery σ)}
    (delivers : Delivers d xs e) (h : d.InStep engine) : e.InStep engine := by
  induction delivers with
  | done d => exact h
  | next found rest ih => exact ih (h.deliver found).1

theorem Delivers.effects {d e : Dispatcher σ} {xs : List (Delivery σ)}
    (delivers : Delivers d xs e) :
    e.stage.effects = d.stage.effects ++ xs.flatMap Delivery.effects := by
  induction delivers with
  | done d => simp
  | @next d f queue rest e found delivers ih =>
      obtain ⟨new, grown, -⟩ := complete_summary f { d with queue }
      rw [ih, grown, List.flatMap_cons, List.append_assoc]
      congr 2
      exact (effectsSince_eq grown).symm

theorem Delivers.outstanding {d e : Dispatcher σ} {xs : List (Delivery σ)}
    (delivers : Delivers d xs e) :
    d.queue.outstanding.Perm (xs.map (·.outcome.id) ++ e.queue.outstanding) ∧
      e.queue.nextId = d.queue.nextId := by
  induction delivers with
  | done d => exact ⟨.refl _, rfl⟩
  | @next d f queue rest e found delivers ih =>
      rw [complete_queue] at ih
      obtain ⟨moved, ids⟩ := ih
      obtain ⟨-, shape⟩ := WorkQueue.tryNext_eq_some.mp found
      have same : queue.nextId = d.queue.nextId := by rw [shape]
      exact ⟨(WorkQueue.outstanding_tryNext found).trans (moved.cons _), ids.trans same⟩

theorem Delivers.queue {d e : Dispatcher σ} {xs : List (Delivery σ)}
    (delivers : Delivers d xs e) :
    d.queue.finished = xs.map (·.outcome) ++ e.queue.finished ∧
      e.queue = { d.queue with
        inFlight := d.queue.inFlight - xs.length
        finished := e.queue.finished } := by
  induction delivers with
  | done d => exact ⟨rfl, rfl⟩
  | @next d f queue rest e found delivers ih =>
      rw [complete_queue] at ih
      obtain ⟨order, same⟩ := ih
      obtain ⟨first, shape⟩ := WorkQueue.tryNext_eq_some.mp found
      refine ⟨?_, ?_⟩
      · rw [first, order]
        rfl
      · rw [same, shape, List.length_cons, Nat.add_comm, Nat.sub_add_eq]

theorem Delivers.counted {d e : Dispatcher σ} {xs : List (Delivery σ)}
    (delivers : Delivers d xs e) (accounted : d.queue.Accounted) :
    d.inFlight = xs.length + e.inFlight ∧ (xs.map (·.outcome.id)).Nodup := by
  obtain ⟨order, same⟩ := delivers.queue
  have moved := delivers.outstanding.1
  have fewer : xs.length ≤ d.queue.inFlight := by
    rw [accounted.counted, moved.length_eq, List.length_append, List.length_map]
    exact Nat.le_add_right _ _
  refine ⟨?_, (List.nodup_append.mp (moved.nodup_iff.mp accounted.distinct)).1⟩
  rw [inFlight, inFlight, same]
  exact (Nat.add_sub_cancel' fewer).symm

theorem Delivers.each {engine : Engine} {d e : Dispatcher σ} {xs : List (Delivery σ)}
    (delivers : Delivers d xs e) (h : d.InStep engine) : ∀ x ∈ xs, ∃ entry,
      (x.outcome.id, entry) ∈ d.pending ∧
      x.before.pending.lookup x.outcome.id = some entry ∧
      x.effects.filterMap Effect.answer? = (entry.reply? x.outcome.output).toList ∧
      x.effects.filterMap Effect.pass? =
        (entry.due x.outcome.output x.before.stage.host).toList := by
  induction delivers with
  | done d => simp
  | @next d f queue rest e found delivers ih =>
      obtain ⟨later, entry, known, new, grown, answers, passes, kept⟩ := h.deliver found
      intro x member
      rcases List.mem_cons.mp member with rfl | further
      · have own : Delivery.effects ⟨f, { d with queue },
            Control.final (complete f) { d with queue }⟩ = new := effectsSince_eq grown
        rw [own]
        exact ⟨entry, h.lookup.mp known, known, answers, passes⟩
      · obtain ⟨other, there, rest⟩ := ih later x further
        rw [kept] at there
        exact ⟨other, (List.mem_filter.mp there).1, rest⟩

theorem Delivers.distinct {engine : Engine} {d e : Dispatcher σ} {xs : List (Delivery σ)}
    (delivers : Delivers d xs e) (h : d.InStep engine) :
    (xs.map (·.outcome.id)).Nodup ∧ ∀ id ∈ xs.map (·.outcome.id),
      id ∈ d.queue.outstanding ∧ id ∉ e.queue.outstanding := by
  have moved := delivers.outstanding.1
  obtain ⟨once, -, apart⟩ := List.nodup_append.mp (moved.nodup_iff.mp h.accounted.distinct)
  refine ⟨once, fun id member => ⟨?_, fun there => apart id member id there rfl⟩⟩
  exact moved.mem_iff.mpr (List.mem_append_left _ member)

theorem Delivers.pending {d e : Dispatcher σ} {xs : List (Delivery σ)}
    (delivers : Delivers d xs e) :
    e.pending = d.pending.filter fun entry => entry.1 ∉ xs.map (·.outcome.id) := by
  induction delivers with
  | done d => simp
  | next found rest ih =>
      rw [ih, complete_pending, List.filter_filter]
      congr 1
      funext entry
      rw [Bool.eq_iff_iff]
      simp [and_comm]

/-- A job on its way comes back with its own outcome to its own entry, or it stays on its way. -/
theorem Delivers.holds {engine : Engine} {d e : Dispatcher σ} {xs : List (Delivery σ)}
    (delivers : Delivers d xs e) (h : d.InStep engine) {id : JobId} {job : Job} {entry : Pending}
    (held : d.Holds engine id job entry) :
    (∀ x ∈ xs, x.outcome.id = id →
      x.outcome = ⟨id, (job.run engine).mapError JobError.ofPanic⟩ ∧
        x.before.pending.lookup id = some entry) ∧
      (id ∉ xs.map (·.outcome.id) → e.Holds engine id job entry) := by
  induction delivers with
  | done d => exact ⟨by simp, fun _ => held⟩
  | @next d f queue rest e found delivers ih =>
      obtain ⟨later, other, known, new, grown, answers, passes, kept⟩ := h.deliver found
      have next := held.carried.tryNext h.accounted found
      by_cases same : f.id = id
      · rw [if_pos same] at next
        have gone : id ∉ rest.map (·.outcome.id) := fun again => by
          have there := delivers.outstanding.1.mem_iff.mpr (List.mem_append_left _ again)
          rw [complete_queue] at there
          exact (h.accounted.tryNext found).2 (same ▸ there)
        constructor
        · intro x member equal
          rcases List.mem_cons.mp member with rfl | further
          · exact ⟨next, h.lookup.mpr held.kept⟩
          · exact absurd (List.mem_map.mpr ⟨x, further, equal⟩) gone
        · intro absent
          exact absurd (by simp [same]) absent
      · rw [if_neg same] at next
        have still : (Control.final (complete f) { d with queue }).Holds engine id job entry := by
          refine ⟨?_, by rw [complete_queue]; exact next⟩
          rw [kept]
          exact List.mem_filter.mpr ⟨held.kept, decide_eq_true fun equal => same equal.symm⟩
        obtain ⟨ours, stays⟩ := ih later still
        constructor
        · intro x member equal
          rcases List.mem_cons.mp member with rfl | further
          · exact absurd equal same
          · exact ours x further equal
        · intro absent
          exact stays fun there => absent (by simp [there])

theorem processAtMost_succ (n : Nat) (d : Dispatcher σ) :
    processAtMost (n + 1) d = match d.queue.tryNext with
      | none => .ok 0 d
      | some (f, queue) =>
        (do complete f; return (← processAtMost n) + 1 : Control (Dispatcher σ) Nat)
          { d with queue } := by
  apply (Control.bind_of_ok _ (Control.get_apply d)).trans
  cases d.queue.tryNext with
  | none => rfl
  | some taken => exact Control.bind_of_ok _ (Control.modify_apply _ d)

theorem processNext_apply (d : Dispatcher σ) :
    processNext d = match d.queue.next with
      | .idle => .ok .idle d
      | .pending => .ok .pending d
      | .taken f queue =>
        (do complete f; return .delivered : Control (Dispatcher σ) Progress)
          { d with queue } := by
  apply (Control.bind_of_ok _ (Control.get_apply d)).trans
  cases d.queue.next with
  | idle => rfl
  | pending => rfl
  | taken f queue => exact Control.bind_of_ok _ (Control.modify_apply _ d)

theorem processNext_of_none {d : Dispatcher σ} (nothing : d.queue.tryNext = none) :
    ∃ p, p ≠ .delivered ∧ processNext d = .ok p d := by
  rw [processNext_apply, WorkQueue.next, nothing]
  by_cases idle : d.queue.inFlight = 0
  · exact ⟨.idle, by decide, by rw [if_pos idle]⟩
  · exact ⟨.pending, by decide, by rw [if_neg idle]⟩

theorem processNext_of_some {d : Dispatcher σ} (accounted : d.queue.Accounted)
    {f : Finished JobOutput} {queue : WorkQueue Job JobOutput}
    (found : d.queue.tryNext = some (f, queue)) :
    processNext d =
      (do complete f; return .delivered : Control (Dispatcher σ) Progress) { d with queue } := by
  rw [processNext_apply, accounted.next_eq, found]

theorem processNext_drained (d : Dispatcher σ) (accounted : d.queue.Accounted) :
    Drained d (deliveries 1 d) (Control.ending processNext d).1 (Control.ending processNext d).2 := by
  cases found : d.queue.tryNext with
  | none =>
      obtain ⟨p, -, same⟩ := processNext_of_none found
      rw [deliveries_of_none _ found, Control.ending_ok same]
      exact .done d
  | some taken =>
      obtain ⟨f, queue⟩ := taken
      have drained := processNext_of_some accounted found
      cases completed : complete f { d with queue } with
      | ok _ e =>
          rw [Control.bind_of_ok _ completed] at drained
          simp only [deliveries, found, completed]
          rw [Control.ending_ok drained]
          exact .next found completed (.done e)
      | error p e =>
          rw [Control.bind_of_error _ completed] at drained
          simp only [deliveries, found, completed]
          rw [Control.ending_error drained]
          exact .panicked found completed

theorem processAtMost_drained (n : Nat) (d : Dispatcher σ) (accounted : d.queue.Accounted) :
    Drained d (deliveries n d) (Control.ending (processAtMost n) d).1
      (Control.ending (processAtMost n) d).2 := by
  refine Drained.of_drain (fun n d => Control.ending (processAtMost n) d) (fun _ => rfl)
    n d accounted ?_ ?_ ?_
  · intro n d nothing
    cases n with
    | zero => rfl
    | succ n =>
        apply Control.ending_ok (a := 0)
        rw [processAtMost_succ, nothing]
  · intro n d f queue e _ found completed
    have step := processAtMost_succ n d
    rw [found] at step
    simp only [Control.bind_of_ok _ completed] at step
    simp only [Control.ending, step]
    exact Control.ending_map (processAtMost n) (· + 1) e
  · intro n d f queue p e _ found completed
    have step := processAtMost_succ n d
    rw [found] at step
    simp only [Control.bind_of_error _ completed] at step
    exact Control.ending_error step

theorem runFor_drained (n : Nat) (d : Dispatcher σ) (accounted : d.queue.Accounted) :
    Drained d (deliveries n d) (Control.ending (runFor n) d).1 (Control.ending (runFor n) d).2 := by
  refine Drained.of_drain (fun n d => Control.ending (runFor n) d) (fun _ => rfl)
    n d accounted ?_ ?_ ?_
  · intro n d nothing
    cases n with
    | zero => rfl
    | succ n =>
        obtain ⟨p, other, same⟩ := processNext_of_none nothing
        have waiting : runFor (n + 1) d = _ := Control.bind_of_ok _ same
        simp only [Control.ending, waiting]
        cases p with
        | delivered => exact absurd rfl other
        | idle => rfl
        | pending => rfl
  · intro n d f queue e accounted found completed
    have step := processNext_of_some accounted found
    rw [Control.bind_of_ok _ completed] at step
    have onward : runFor (n + 1) d = runFor n e := Control.bind_of_ok _ step
    simp only [Control.ending, onward]
  · intro n d f queue p e accounted found completed
    have step := processNext_of_some accounted found
    rw [Control.bind_of_error _ completed] at step
    exact Control.ending_error (Control.bind_of_error _ step)

end Dispatcher

end FilterDispatch
