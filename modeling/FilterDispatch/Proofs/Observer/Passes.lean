import FilterDispatch.Observer.Script
import FilterDispatch.Proofs.Control
import Mathlib.Data.List.Nodup

/-!
Passes over observers that change the list meanwhile.  A pass tells those that it collected and
finds registered when their turn comes, in the order of registration, until one of them panics;
passes that observers start on the way do the same.
-/

namespace FilterDispatch

namespace ObserverList

theorem mem_add {l : ObserverList} {other o : ObserverId} :
    o ∈ (l.add other).2.entries ↔ other = o ∨ o ∈ l.entries := by
  rw [add]
  split
  · next there =>
      refine (or_iff_right_of_imp ?_).symm
      rintro rfl
      simpa [contains] using there
  · simp only [List.mem_append, List.mem_singleton]
    rw [or_comm, eq_comm]

theorem mem_remove {l : ObserverList} {other o : ObserverId} :
    o ∈ (l.remove other).2.entries ↔ other ≠ o ∧ o ∈ l.entries := by
  simp only [remove, List.mem_filter, decide_eq_true_eq]
  rw [and_comm, ne_comm]

theorem add_nodup {l : ObserverList} (o : ObserverId) (distinct : l.entries.Nodup) :
    (l.add o).2.entries.Nodup := by
  rw [add]
  split
  · exact distinct
  · next fresh =>
      apply (List.perm_append_singleton _ _).nodup_iff.mpr
      refine List.nodup_cons.mpr ⟨?_, distinct⟩
      simpa [contains] using fresh

variable {σ : Type} (tell : ObserverId → Control (ObserverList × σ) Unit)

theorem passOver_cons (o : ObserverId) (rest : List ObserverId) (s : ObserverList × σ) :
    passOver tell (o :: rest) s =
      if s.1.contains o then
        match tell o s with
        | .ok _ t => passOver tell rest t
        | .error p t => .error p t
      else passOver tell rest s := by
  simp only [passOver, Control.bind_apply, Control.get_apply]
  cases s.1.contains o with
  | true =>
      simp only [if_true, Control.bind_apply]
      cases tell o s <;> rfl
  | false => rfl

variable {tell} in
theorem notify_of_ok (owned : σ → ObserverId → Bool) (l : ObserverList) (s : σ)
    {t : ObserverList × σ}
    (all : passOver tell (l.prune (owned s)).entries ((l.prune (owned s)).collect, s) = .ok () t) :
    notify owned tell (l, s) = .ok () (letGo (l.prune (owned s)) t.1, t.2) := by
  simp only [notify, all]

variable {tell} in
theorem notify_of_error (owned : σ → ObserverId → Bool) (l : ObserverList) (s : σ)
    {t : ObserverList × σ} {p : Panic}
    (panicked : passOver tell (l.prune (owned s)).entries ((l.prune (owned s)).collect, s) =
      .error p t) :
    notify owned tell (l, s) = .error p (letGo (l.prune (owned s)) t.1, t.2) := by
  simp only [notify, panicked]

theorem invocations_append (first later : List ObserverId) (s : ObserverList × σ) :
    invocations tell (first ++ later) s = invocations tell first s ++
      match passOver tell first s with
      | .ok _ t => invocations tell later t
      | .error _ _ => [] := by
  induction first generalizing s with
  | nil => rfl
  | cons o rest ih =>
      rw [List.cons_append, invocations, invocations, passOver_cons]
      cases s.1.contains o with
      | false => exact ih s
      | true =>
          simp only [if_true, List.cons_append]
          cases tell o s with
          | ok _ t => simp only [ih t]
          | error p t => rfl

theorem passOver_eq_forM (os : List ObserverId) (s : ObserverList × σ) :
    passOver tell os s = forM ((invocations tell os s).map (·.observer)) tell s := by
  induction os generalizing s with
  | nil => rfl
  | cons o rest ih =>
      rw [passOver_cons, invocations]
      cases s.1.contains o with
      | false => exact ih s
      | true =>
          simp only [if_true, List.map_cons, List.forM_cons, Control.bind_apply]
          cases tell o s with
          | ok _ t => exact ih t
          | error p t => rfl

theorem passOver_returns_iff (os : List ObserverId) (s : ObserverList × σ) :
    (∃ t, passOver tell os s = .ok () t) ↔
      ∀ i ∈ invocations tell os s, ∃ t, tell i.observer i.before = .ok () t := by
  induction os generalizing s with
  | nil => exact ⟨fun _ i member => absurd member List.not_mem_nil, fun _ => ⟨s, rfl⟩⟩
  | cons o rest ih =>
      rw [passOver_cons, invocations]
      cases s.1.contains o with
      | false => exact ih s
      | true =>
          simp only [if_true, List.forall_mem_cons]
          cases tell o s with
          | ok _ t => simpa using ih t
          | error p t => simp

theorem invoked_sublist (os : List ObserverId) (s : ObserverList × σ) :
    ((invocations tell os s).map (·.observer)).Sublist os := by
  induction os generalizing s with
  | nil => exact List.Sublist.refl _
  | cons o rest ih =>
      rw [invocations]
      cases s.1.contains o with
      | false => exact (ih s).cons o
      | true =>
          simp only [if_true, List.map_cons]
          cases tell o s with
          | ok _ t => exact (ih t).cons_cons o
          | error p t => exact (List.nil_sublist rest).cons_cons o

theorem invocations_split {os : List ObserverId} {s : ObserverList × σ} {i : Invocation σ}
    (member : i ∈ invocations tell os s) : ∃ first later, os = first ++ i.observer :: later ∧
      passOver tell first s = .ok () i.before ∧ i.before.1.contains i.observer = true := by
  induction os generalizing s with
  | nil => exact absurd member List.not_mem_nil
  | cons o rest ih =>
      rw [invocations] at member
      cases registered : s.1.contains o with
      | false =>
          rw [registered] at member
          obtain ⟨first, later, rfl, came, there⟩ := ih member
          refine ⟨o :: first, later, rfl, ?_, there⟩
          rw [passOver_cons, registered]
          exact came
      | true =>
          simp only [registered, if_true] at member
          rcases List.mem_cons.mp member with rfl | further
          · exact ⟨[], rest, rfl, rfl, registered⟩
          · cases told : tell o s with
            | error p t =>
                rw [told] at further
                exact absurd further List.not_mem_nil
            | ok _ t =>
                rw [told] at further
                obtain ⟨first, later, rfl, came, there⟩ := ih further
                refine ⟨o :: first, later, rfl, ?_, there⟩
                simp only [passOver_cons, registered, if_true, told]
                exact came

theorem invoked_iff_of_split {first later : List ObserverId} {o : ObserverId} {s : ObserverList × σ}
    (distinct : (first ++ o :: later).Nodup) :
    o ∈ (invocations tell (first ++ o :: later) s).map (·.observer) ↔
      ∃ t, passOver tell first s = .ok () t ∧ t.1.contains o = true := by
  constructor
  · intro member
    obtain ⟨i, told, rfl⟩ := List.mem_map.mp member
    obtain ⟨front, back, same, came, there⟩ := invocations_split tell told
    have others := List.nodup_append.mp distinct
    have first_front := (List.append_cons_inj_of_notMem
      (fun member => others.2.2 _ member _ List.mem_cons_self rfl)
      (List.nodup_cons.mp others.2.1).1).mp same
    rw [first_front.1]
    exact ⟨i.before, came, there⟩
  · rintro ⟨t, came, there⟩
    simp [invocations_append, came, invocations, there]

theorem mem_invocations_append {first later : List ObserverId} (distinct : (first ++ later).Nodup)
    (s : ObserverList × σ) (i : Invocation σ) :
    i ∈ invocations tell (first ++ later) s ∧ i.observer ∈ first ↔
      i ∈ invocations tell first s := by
  have inside : i ∈ invocations tell first s → i.observer ∈ first := fun member =>
    (invoked_sublist tell first s).subset (List.mem_map_of_mem member)
  rw [invocations_append, List.mem_append]
  constructor
  · rintro ⟨early | late, turn⟩
    · exact early
    · cases passed : passOver tell first s with
      | error p t =>
          rw [passed] at late
          exact absurd late List.not_mem_nil
      | ok _ t =>
          rw [passed] at late
          have other := (invoked_sublist tell later t).subset (List.mem_map_of_mem late)
          exact absurd rfl ((List.nodup_append.mp distinct).2.2 _ turn _ other)
  · exact fun member => ⟨.inl member, inside member⟩

theorem passOver_keeps {P : ObserverList × σ → Prop} (os : List ObserverId)
    (told : ∀ o ∈ os, ∀ s, P s → P (Control.final (tell o) s))
    {s : ObserverList × σ} (holds : P s) : P (Control.final (passOver tell os) s) := by
  induction os generalizing s with
  | nil => exact holds
  | cons o rest ih =>
      have others : ∀ other ∈ rest, ∀ s, P s → P (Control.final (tell other) s) :=
        fun other member => told other (List.mem_cons_of_mem o member)
      have step := passOver_cons tell o rest s
      cases registered : s.1.contains o with
      | false =>
          rw [registered, if_neg (by simp)] at step
          rw [Control.final_congr step]
          exact ih others holds
      | true =>
          have next := told o List.mem_cons_self s holds
          rw [registered, if_pos rfl] at step
          cases result : tell o s with
          | ok _ t =>
              rw [result] at step
              rw [Control.final_ok result] at next
              rw [Control.final_congr step]
              exact ih others next
          | error p t =>
              rw [result] at step
              rw [Control.final_error result] at next
              rwa [Control.final_error step]

theorem before_keeps {P : ObserverList × σ → Prop} (os : List ObserverId)
    (told : ∀ o ∈ os, ∀ s, P s → P (Control.final (tell o) s)) {s : ObserverList × σ} (holds : P s)
    {i : Invocation σ} (member : i ∈ invocations tell os s) : P i.before := by
  obtain ⟨first, later, rfl, came, -⟩ := invocations_split tell member
  have there := passOver_keeps tell first (fun o early => told o (List.mem_append_left _ early)) holds
  rwa [Control.final_ok came] at there

/-- What holds once an observer has been told, and what every observer keeps, holds for those told
after it and at the end. -/
theorem invocations_keep {P : ObserverList × σ → Prop} (os : List ObserverId)
    (told : ∀ o ∈ os, ∀ s, P s → P (Control.final (tell o) s)) (s : ObserverList × σ) :
    (invocations tell os s).Pairwise
        (fun i j => P (Control.final (tell i.observer) i.before) → P j.before) ∧
      ∀ i ∈ invocations tell os s, P (Control.final (tell i.observer) i.before) →
        P (Control.final (passOver tell os) s) := by
  induction os generalizing s with
  | nil => exact ⟨List.Pairwise.nil, fun _ member => absurd member List.not_mem_nil⟩
  | cons o rest ih =>
      have others : ∀ o ∈ rest, ∀ s, P s → P (Control.final (tell o) s) :=
        fun other member => told other (List.mem_cons_of_mem o member)
      have step := passOver_cons tell o rest s
      rw [invocations]
      cases registered : s.1.contains o with
      | false =>
          rw [registered, if_neg (by simp)] at step
          rw [Control.final_congr step]
          exact ih others s
      | true =>
          rw [registered, if_pos rfl] at step
          simp only [if_true, List.pairwise_cons, List.forall_mem_cons]
          cases result : tell o s with
          | ok _ t =>
              rw [result] at step
              rw [Control.final_ok result, Control.final_congr step]
              obtain ⟨between, toEnd⟩ := ih others t
              exact ⟨⟨fun j member holds => before_keeps tell rest others holds member, between⟩,
                passOver_keeps tell rest others, toEnd⟩
          | error p t =>
              rw [result] at step
              rw [Control.final_error result, Control.final_error step]
              simp

end ObserverList

variable {σ : Type} {owned : σ → ObserverId → Bool}

namespace Pass

def after (p : Pass owned) : ObserverList × σ :=
  Control.final (ObserverList.notify owned p.tell) p.start

theorem after_eq (p : Pass owned) :
    p.after =
      (ObserverList.letGo (p.start.1.prune (owned p.start.2))
        (Control.final (ObserverList.passOver p.tell p.collected) p.opening).1,
        (Control.final (ObserverList.passOver p.tell p.collected) p.opening).2) := by
  cases ran : ObserverList.passOver p.tell p.collected p.opening with
  | ok _ t =>
      rw [after, Control.final_ok (ObserverList.notify_of_ok owned _ _ ran), Control.final_ok ran]
  | error e t =>
      rw [after, Control.final_error (ObserverList.notify_of_error owned _ _ ran),
        Control.final_error ran]

end Pass

namespace Script

theorem pass_cases (react : ObserverId → Script owned) (next : Option Panic → Script owned)
    (s : ObserverList × σ) : let p : Pass owned := ⟨react, s⟩
    ∃ r, Control.final (run (.pass react next)) s = Control.final (run (next r)) p.after ∧
      passes (.pass react next) s = p ::
        (p.invocations.flatMap (fun i => (react i.observer).passes i.before) ++
          (next r).passes p.after) ∧
      trace (.pass react next) s =
        p.invocations.flatMap
          (fun i => ⟨some i.observer, i.before⟩ :: (react i.observer).trace i.before) ++
          ⟨none, p.after⟩ :: (next r).trace p.after := by
  intro p
  have ran : run (.pass react next) s = match p.ending with
      | .ok _ t => (next none).run t
      | .error e t => (next (some e)).run t := by
    rw [Script.run]
    rfl
  rw [Script.passes, Script.trace]
  change ∃ r, _ ∧ p :: p.invocations.flatMap _ ++ (match p.ending with
    | .ok _ t => _
    | .error e t => _) = _ ∧ _
  cases ended : p.ending with
  | ok _ t =>
      rw [ended] at ran
      have stop : p.after = t := Control.final_ok ended
      rw [stop]
      exact ⟨none, Control.final_congr ran, rfl, rfl⟩
  | error e t =>
      rw [ended] at ran
      have stop : p.after = t := Control.final_error ended
      rw [stop]
      exact ⟨some e, Control.final_congr ran, rfl, rfl⟩

/-- What stays true of a list and its host whatever observers do with them. -/
structure Invariant (owned : σ → ObserverId → Bool) (I : ObserverList × σ → Prop) : Prop where
  add : ∀ {s} o, I s → I ((s.1.add o).2, s.2)
  remove : ∀ {s} o, I s → I ((s.1.remove o).2, s.2)
  act : ∀ {s} (change : σ → σ), (∀ h o, owned (change h) o = true → owned h o = true) → I s →
    I (s.1, change s.2)
  opens : ∀ {s}, I s → I ((s.1.prune (owned s.2)).collect, s.2)
  ends : ∀ {s t}, I s → I t → I (ObserverList.letGo (s.1.prune (owned s.2)) t.1, t.2)

theorem Invariant.pass {I : ObserverList × σ → Prop} (kept : Invariant owned I) (p : Pass owned)
    (told : ∀ o s, I s → I (Control.final (p.tell o) s)) (holds : I p.start) :
    (∀ i ∈ p.invocations, I i.before) ∧ I p.after := by
  have opened : I p.opening := kept.opens holds
  refine ⟨fun i member =>
    ObserverList.before_keeps p.tell p.collected (fun o _ => told o) opened member, ?_⟩
  rw [Pass.after_eq]
  exact kept.ends holds (ObserverList.passOver_keeps p.tell p.collected (fun o _ => told o) opened)

theorem Invariant.run {I : ObserverList × σ → Prop} (kept : Invariant owned I)
    (script : Script owned) {s : ObserverList × σ} (holds : I s) :
    I (Control.final script.run s) := by
  induction script generalizing s with
  | done => exact holds
  | panic p => exact holds
  | add o next ih => exact ih _ (kept.add o holds)
  | remove o next ih => exact ih _ (kept.remove o holds)
  | act change frees next ih => exact ih _ (kept.act change frees holds)
  | pass react next told ih =>
      obtain ⟨r, ran, -, -⟩ := pass_cases react next s
      rw [ran]
      exact ih r (kept.pass ⟨react, s⟩ (fun o _ => told o) holds).2

/-- An invariant holds at the start of every pass, and whenever an observer is told. -/
theorem Invariant.passes {I : ObserverList × σ → Prop} (kept : Invariant owned I)
    (script : Script owned) {s : ObserverList × σ} (holds : I s) :
    ∀ p ∈ script.passes s, I p.start := by
  induction script generalizing s with
  | done => exact fun p member => absurd member List.not_mem_nil
  | panic p => exact fun p member => absurd member List.not_mem_nil
  | add o next ih => exact ih _ (kept.add o holds)
  | remove o next ih => exact ih _ (kept.remove o holds)
  | act change frees next ih => exact ih _ (kept.act change frees holds)
  | pass react next told ih =>
      obtain ⟨before, after⟩ := kept.pass ⟨react, s⟩ (fun o _ => kept.run (react o)) holds
      obtain ⟨r, -, rest, -⟩ := pass_cases react next s
      rw [rest]
      intro p member
      rcases List.mem_cons.mp member with rfl | inner
      · exact holds
      · rcases List.mem_append.mp inner with nested | later
        · obtain ⟨i, invoked, begun⟩ := List.mem_flatMap.mp nested
          exact told i.observer (before i invoked) p begun
        · exact ih r after p later

theorem Invariant.trace {I : ObserverList × σ → Prop} (kept : Invariant owned I)
    (script : Script owned) {s : ObserverList × σ} (holds : I s) :
    ∀ m ∈ script.trace s, I m.state := by
  induction script generalizing s with
  | done => exact fun m member => absurd member List.not_mem_nil
  | panic p => exact fun m member => absurd member List.not_mem_nil
  | add o next ih => exact ih _ (kept.add o holds)
  | remove o next ih => exact ih _ (kept.remove o holds)
  | act change frees next ih => exact ih _ (kept.act change frees holds)
  | pass react next told ih =>
      obtain ⟨before, after⟩ := kept.pass ⟨react, s⟩ (fun o _ => kept.run (react o)) holds
      obtain ⟨r, -, -, all⟩ := pass_cases react next s
      rw [all]
      intro m member
      rcases List.mem_append.mp member with inside | ended
      · obtain ⟨i, invoked, there⟩ := List.mem_flatMap.mp inside
        rcases List.mem_cons.mp there with rfl | further
        · exact before i invoked
        · exact told i.observer (before i invoked) m further
      · rcases List.mem_cons.mp ended with rfl | later
        · exact after
        · exact ih r after m later

end Script

end FilterDispatch
