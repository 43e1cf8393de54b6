import FilterDispatch.Observer.Dealings
import FilterDispatch.Proofs.Observer.Passes

/-!
Histories of a list and its observers.  A history is one small step after the other, also where passes
are nested or cut short; along them each observer that lives or is registered has a block of its own.
-/

namespace FilterDispatch

namespace ObserverList

theorem add_held (l : ObserverList) (o : ObserverId) : (l.add o).2.held = l.held := by
  rw [add]
  split <;> rfl

end ObserverList

namespace Dealings

/-- What can happen at once, and what it leads to. -/
inductive Step : Tenancy → Event → Tenancy → Prop
  | made {s b} : s.vacant b = true → Step s (.dealt (.make b) true) (s.1, s.2.make b)
  | gaveUp {s b} : s.2.owned b = true → Step s (.dealt (.giveUp b) true) (s.1, s.2.own b false)
  | regained {s b} : s.alive b = true → Step s (.dealt (.regain b) true) (s.1, s.2.own b true)
  | added {s b} : s.alive b = true →
      Step s (.dealt (.add b) (s.1.add b).1) ((s.1.add b).2, s.2)
  | removed {s b} : s.alive b = true →
      Step s (.dealt (.remove b) (s.1.remove b).1) ((s.1.remove b).2, s.2)
  | began {s} : Step s .began s.opening
  | told {s b} : Step s (.told b) s
  | ended {s} {start : Tenancy} {p} : start.1.held <+: s.1.held →
      Step s (.ended p) (start.closing s)

variable {s t u : Tenancy} {b c : Block} {n : Nat}

theorem step_of_deal {a : Deal} {r : Bool} (dealt : a.apply? s = some (r, t)) :
    Step s (.dealt a r) t := by
  cases a with
  | make b =>
      obtain ⟨vacant, same⟩ := Option.ite_none_right_eq_some.mp dealt
      cases same
      exact .made vacant
  | giveUp b =>
      obtain ⟨owned, same⟩ := Option.ite_none_right_eq_some.mp dealt
      cases same
      exact .gaveUp owned
  | regain b =>
      obtain ⟨alive, same⟩ := Option.ite_none_right_eq_some.mp dealt
      cases same
      exact .regained alive
  | add b =>
      obtain ⟨alive, same⟩ := Option.ite_none_right_eq_some.mp dealt
      cases same
      exact .added alive
  | remove b =>
      obtain ⟨alive, same⟩ := Option.ite_none_right_eq_some.mp dealt
      cases same
      exact .removed alive

inductive Linked : Tenancy → List Deed → Tenancy → Prop
  | none (s : Tenancy) : Linked s [] s
  | next {s event t deeds u} : Step s event t → Linked t deeds u →
      Linked s (⟨s, event, t⟩ :: deeds) u

theorem Linked.append {first later : List Deed} (begins : Linked s first t)
    (goesOn : Linked t later u) : Linked s (first ++ later) u := by
  induction begins with
  | none => exact goesOn
  | next step rest ih => exact .next step (ih goesOn)

theorem deal_cases (a : Deal) (next : Option Bool → Dealings) (s : Tenancy) :
    Control.final (run (.deal a next)) s = Control.final (next none).run s ∧
        history (.deal a next) s = (next none).history s ∨
      ∃ r t, a.apply? s = some (r, t) ∧
        Control.final (run (.deal a next)) s = Control.final (next (some r)).run t ∧
        history (.deal a next) s = ⟨s, .dealt a r, t⟩ :: (next (some r)).history t := by
  cases dealt : a.apply? s with
  | none =>
      refine .inl ⟨Control.final_congr ?_, ?_⟩
      · simp only [run, dealt]
      · simp only [history, dealt]
  | some result =>
      refine .inr ⟨result.1, result.2, rfl, Control.final_congr ?_, ?_⟩
      · simp only [run, dealt]
      · simp only [history, dealt]

/-- Where a pass gets to, before it lets go of what it collected. -/
def reached (react : Block → Dealings) (s : Tenancy) : Tenancy :=
  Control.final (ObserverList.passOver (fun b => (react b).run) s.opening.1.entries) s.opening

/-- A pass is carried out, and then what follows it, which may depend on how it ended. -/
theorem pass_cases (react : Block → Dealings) (next : Option Panic → Dealings) (s : Tenancy) :
    let e := s.closing (reached react s)
    ∃ r, Control.final (run (.pass react next)) s = Control.final (next r).run e ∧
      history (.pass react next) s = ⟨s, .began, s.opening⟩ ::
        ((ObserverList.invocations (fun b => (react b).run) s.opening.1.entries s.opening).flatMap
            (fun i => ⟨i.before, .told i.observer, i.before⟩ ::
              (react i.observer).history i.before) ++
          ⟨reached react s, .ended r, e⟩ :: (next r).history e) := by
  intro e
  cases ran : ObserverList.passOver (fun b => (react b).run) s.opening.1.entries s.opening with
  | ok _ t =>
      have stop : reached react s = t := Control.final_ok ran
      have notified := ObserverList.notify_of_ok Storage.owned s.1 s.2 ran
      subst stop
      refine ⟨none, Control.final_congr ?_, ?_⟩
      · simp only [run, notified]
        rfl
      · simp only [history, ran]
        rfl
  | error p t =>
      have stop : reached react s = t := Control.final_error ran
      have notified := ObserverList.notify_of_error Storage.owned s.1 s.2 ran
      subst stop
      refine ⟨some p, Control.final_congr ?_, ?_⟩
      · simp only [run, notified]
        rfl
      · simp only [history, ran]
        rfl

theorem apply?_held {a : Deal} {r : Bool} (dealt : a.apply? s = some (r, t)) :
    t.1.held = s.1.held := by
  cases step_of_deal dealt with
  | added alive => exact ObserverList.add_held _ _
  | _ => rfl

theorem held_run (script : Dealings) (s : Tenancy) :
    (Control.final script.run s).1.held = s.1.held := by
  induction script generalizing s with
  | done => rfl
  | panic p => rfl
  | deal a next ih =>
      rcases deal_cases a next s with ⟨ran, -⟩ | ⟨r, t, dealt, ran, -⟩
      · rw [ran, ih]
      · rw [ran, ih, apply?_held dealt]
  | pass react next told ih =>
      obtain ⟨r, ran, -⟩ := pass_cases react next s
      rw [ran, ih]
      rfl

theorem held_reached (react : Block → Dealings) (s : Tenancy) :
    s.1.held <+: (reached react s).1.held := by
  have kept := ObserverList.passOver_keeps (fun b => (react b).run) s.opening.1.entries
    (P := fun t : Tenancy => t.1.held = s.opening.1.held)
    (fun b _ t same => (held_run (react b) t).trans same) (s := s.opening) rfl
  rw [reached, kept]
  exact List.prefix_append _ _

theorem linked_tellings {react : Block → Dealings}
    (told : ∀ b s, Linked s ((react b).history s) (Control.final (react b).run s))
    (bs : List Block) (s : Tenancy) :
    Linked s ((ObserverList.invocations (fun b => (react b).run) bs s).flatMap
        fun i => ⟨i.before, .told i.observer, i.before⟩ :: (react i.observer).history i.before)
      (Control.final (ObserverList.passOver (fun b => (react b).run) bs) s) := by
  induction bs generalizing s with
  | nil => exact .none s
  | cons b rest ih =>
      have step := ObserverList.passOver_cons (fun b => (react b).run) b rest s
      rw [ObserverList.invocations]
      cases registered : s.1.contains b with
      | false =>
          rw [registered] at step
          rw [Control.final_congr step]
          exact ih s
      | true =>
          have here := told b s
          rw [registered] at step
          simp only [if_true, List.flatMap_cons, List.cons_append] at step ⊢
          refine .next .told ?_
          cases result : (react b).run s with
          | ok _ t =>
              rw [result] at step
              rw [Control.final_ok result] at here
              rw [Control.final_congr step]
              exact here.append (ih t)
          | error p t =>
              rw [result] at step
              rw [Control.final_error result] at here
              rw [Control.final_error step, List.flatMap_nil, List.append_nil]
              exact here

/-- A history is one deed after the other, each of which finds what the one before it left. -/
theorem linked (script : Dealings) (s : Tenancy) :
    Linked s (script.history s) (Control.final script.run s) := by
  induction script generalizing s with
  | done => exact .none s
  | panic p => exact .none s
  | deal a next ih =>
      rcases deal_cases a next s with ⟨ran, same⟩ | ⟨r, t, dealt, ran, same⟩
      · rw [ran, same]
        exact ih none s
      · rw [ran, same]
        exact .next (step_of_deal dealt) (ih (some r) t)
  | pass react next told ih =>
      obtain ⟨r, ran, same⟩ := pass_cases react next s
      rw [ran, same]
      refine .next .began ((linked_tellings told _ s.opening).append ?_)
      exact .next (.ended (held_reached react s)) (ih r _)

theorem alive_iff : s.alive b = true ↔ s.2.owned b = true ∨ b ∈ s.1.held := by
  simp [Tenancy.alive, ObserverList.alive]

theorem alive_add : Tenancy.alive ((s.1.add c).2, s.2) b = true ↔ s.alive b = true := by
  rw [alive_iff, alive_iff, ObserverList.add_held]

theorem vacant_iff : s.vacant b = true ↔ s.alive b = false ∧ b ∉ s.1.entries := by
  simp [Tenancy.vacant, ObserverList.contains]

theorem mem_opening : b ∈ s.opening.1.entries ↔ b ∈ s.1.entries ∧ s.alive b = true :=
  List.mem_filter

theorem alive_opening : s.opening.alive b = true ↔ s.alive b = true := by
  have collected : b ∈ s.opening.1.held ↔ b ∈ s.1.held ∨ b ∈ s.opening.1.entries :=
    List.mem_append
  rw [alive_iff, collected, mem_opening, alive_iff]
  change s.2.owned b = true ∨ _ ↔ _
  tauto

theorem Step.alive {event : Event} (step : Step s event t) (alive : t.alive b = true) :
    s.alive b = true ∨ event = .dealt (.make b) true := by
  cases step with
  | @made c vacant =>
      by_cases same : b = c
      · exact .inr (by rw [same])
      · refine .inl ?_
        rw [alive_iff] at alive ⊢
        simpa [Storage.make, same] using alive
  | @gaveUp c owned =>
      refine .inl ?_
      rw [alive_iff] at alive ⊢
      refine alive.imp_left fun still => ?_
      by_cases same : b = c
      · exact same ▸ owned
      · simpa [Storage.own, same] using still
  | @regained c there =>
      refine .inl ?_
      by_cases same : b = c
      · exact same ▸ there
      · rw [alive_iff] at alive ⊢
        simpa [Storage.own, same] using alive
  | added there => exact .inl (alive_add.mp alive)
  | removed there => exact .inl alive
  | began => exact .inl (alive_opening.mp alive)
  | told => exact .inl alive
  | ended fewer =>
      refine .inl ?_
      rw [alive_iff] at alive ⊢
      exact alive.imp_right fun member => fewer.subset member

/-- Blocks and observers belong together. -/
structure Housed (s : Tenancy) : Prop where
  made : ∀ b, s.2.occupant b ≤ s.2.made
  home : ∀ b, s.2.occupant b ≠ 0 → s.2.home (s.2.occupant b) = b
  inhabited : ∀ b, s.alive b = true ∨ b ∈ s.1.entries → s.2.occupant b ≠ 0
  distinct : s.1.entries.Nodup

theorem Housed.inj (h : Housed s) (occupied : s.2.occupant b ≠ 0)
    (same : s.2.occupant b = s.2.occupant c) : b = c := by
  rw [← h.home b occupied, same, h.home c (same ▸ occupied)]

theorem Housed.lives_iff (h : Housed s) (occupied : s.2.occupant b ≠ 0) :
    s.lives (s.2.occupant b) = s.alive b := by
  simp [Tenancy.lives, h.home b occupied]

theorem Housed.mem_registered (h : Housed s) (occupied : s.2.occupant b ≠ 0) :
    s.2.occupant b ∈ s.registered ↔ b ∈ s.1.entries := by
  constructor
  · intro member
    obtain ⟨c, there, same⟩ := List.mem_map.mp member
    exact h.inj (same ▸ occupied) same ▸ there
  · exact List.mem_map_of_mem

theorem Housed.registered_distinct (h : Housed s) : s.registered.Nodup :=
  h.distinct.map_on fun b member _ _ same => h.inj (h.inhabited b (.inr member)) same

theorem Step.storage {event : Event} (step : Step s event t) :
    (∃ b, s.vacant b = true ∧ event = .dealt (.make b) true ∧ t = (s.1, s.2.make b)) ∨
      t.2.made = s.2.made ∧ t.2.occupant = s.2.occupant ∧ t.2.home = s.2.home ∧
        ∀ b, event ≠ .dealt (.make b) true := by
  cases step with
  | made vacant => exact .inl ⟨_, vacant, rfl, rfl⟩
  | _ => exact .inr ⟨rfl, rfl, rfl, by simp⟩

theorem Step.entries {event : Event} (step : Step s event t) (there : b ∈ t.1.entries) :
    b ∈ s.1.entries ∨ s.alive b = true := by
  cases step with
  | added alive =>
      rcases ObserverList.mem_add.mp there with rfl | old
      · exact .inr alive
      · exact .inl old
  | removed alive => exact .inl (ObserverList.mem_remove.mp there).2
  | began => exact .inl (mem_opening.mp there).1
  | _ => exact .inl there

theorem Step.distinct {event : Event} (step : Step s event t) (distinct : s.1.entries.Nodup) :
    t.1.entries.Nodup := by
  cases step with
  | added alive => exact ObserverList.add_nodup _ distinct
  | removed alive => exact distinct.filter _
  | began => exact distinct.filter _
  | _ => exact distinct

theorem Housed.step {event : Event} (h : Housed s) (step : Step s event t) : Housed t := by
  have distinct := step.distinct h.distinct
  rcases step.storage with ⟨b, vacant, rfl, rfl⟩ | ⟨made, occupant, home, others⟩
  · obtain ⟨dead, absent⟩ := vacant_iff.mp vacant
    refine ⟨fun c => ?_, fun c occupied => ?_, fun c present => ?_, distinct⟩
    · by_cases same : c = b
      · simp [Storage.make, same]
      · simpa [Storage.make, same] using Nat.le_succ_of_le (h.made c)
    · by_cases same : c = b
      · simp [Storage.make, same]
      · have old : s.2.occupant c ≠ s.2.made + 1 := Nat.ne_of_lt (Nat.lt_succ_of_le (h.made c))
        simp only [Storage.make, if_neg same, if_neg old] at occupied ⊢
        exact h.home c occupied
    · by_cases same : c = b
      · simp [Storage.make, same]
      · simp only [Storage.make, if_neg same]
        apply h.inhabited
        rcases present with alive | there
        · rcases step.alive alive with before | new
          · exact .inl before
          · cases new
            exact absurd rfl same
        · exact .inr there
  · refine ⟨?_, ?_, fun c present => ?_, distinct⟩
    · rw [made, occupant]
      exact h.made
    · rw [occupant, home]
      exact h.home
    · rw [occupant]
      apply h.inhabited
      rcases present with alive | there
      · exact .inl ((step.alive alive).resolve_right (others c))
      · exact (step.entries there).symm

end Dealings

end FilterDispatch
