import FilterDispatch.Proofs.Observer.Histories
import Mathlib.Data.List.Perm.Subperm

/-!
Registrations as a set in the order of insertion.  A list knows its observers by their blocks, and a
registration keeps its block from being used again; so the list does as if it knew the observers
themselves, whatever their owners do and wherever passes end.
-/

namespace FilterDispatch

namespace ObserverList

theorem add_add (l : ObserverList) (o : ObserverId) :
    (l.add o).2.add o = (false, (l.add o).2) := by
  have there : (l.add o).2.contains o = true := by
    simpa [contains] using mem_add.mpr (.inl rfl)
  rw [add, if_pos there]

theorem remove_remove (l : ObserverList) (o : ObserverId) :
    (l.remove o).2.remove o = (false, (l.remove o).2) := by
  simp [remove, contains, List.filter_filter]

end ObserverList

namespace Dealings

/-- What a deed makes of a set that keeps the order of insertion. -/
def Deed.updates (d : Deed) (A : List Nat) : List Nat :=
  match d.event with
  | .dealt (.add b) _ =>
    if d.before.2.occupant b ∈ A then A else A ++ [d.before.2.occupant b]
  | .dealt (.remove b) _ => A.filter (· ≠ d.before.2.occupant b)
  | _ => A

/-- The observers that were added and not removed since, dead or alive. -/
def ordered (deeds : List Deed) : List Nat :=
  deeds.foldl (fun A d => d.updates A) []

theorem ordered_snoc (deeds : List Deed) (d : Deed) :
    ordered (deeds ++ [d]) = d.updates (ordered deeds) := by
  simp [ordered]

/-- All that is registered is in the set, and what is in the set and alive is registered. -/
structure Agrees (A : List Nat) (s : Tenancy) : Prop where
  distinct : A.Nodup
  made : ∀ n ∈ A, n ≤ s.2.made
  registered : s.registered.Sublist A
  complete : ∀ b, s.alive b = true → s.2.occupant b ∈ A → b ∈ s.1.entries

variable {s t u : Tenancy} {b : Block} {n : Nat} {A : List Nat} {event : Event}

theorem Agrees.mem_iff (agrees : Agrees A s) (alive : s.alive b = true) :
    s.2.occupant b ∈ A ↔ b ∈ s.1.entries :=
  ⟨agrees.complete b alive, fun there => agrees.registered.subset (List.mem_map_of_mem there)⟩

theorem Agrees.living (agrees : Agrees A s) (h : Housed s) :
    (s.1.entries.filter s.alive).map s.2.occupant = A.filter s.lives := by
  have same : (s.1.entries.filter s.alive).map s.2.occupant = s.registered.filter s.lives := by
    rw [Tenancy.registered, List.filter_map]
    congr 1
    apply List.filter_congr
    intro b there
    exact (h.lives_iff (h.inhabited b (.inr there))).symm
  rw [same]
  apply (agrees.registered.filter _).eq_of_length_le
  apply List.Subperm.length_le
  apply (agrees.distinct.filter _).subperm
  intro n member
  obtain ⟨inside, lives⟩ := List.mem_filter.mp member
  obtain ⟨alive, home⟩ := Bool.and_eq_true_iff.mp lives
  have own : s.2.occupant (s.2.home n) = n := beq_iff_eq.mp home
  have there := agrees.complete (s.2.home n) alive (own.symm ▸ inside)
  exact List.mem_filter.mpr ⟨own ▸ List.mem_map_of_mem there, lives⟩

theorem Agrees.of_same (agrees : Agrees A s) (made : t.2.made = s.2.made)
    (occupant : t.2.occupant = s.2.occupant) (entries : t.1.entries = s.1.entries)
    (alive : ∀ b, t.alive b = true → s.alive b = true) : Agrees A t where
  distinct := agrees.distinct
  made := made ▸ agrees.made
  registered := by
    rw [Tenancy.registered, entries, occupant]
    exact agrees.registered
  complete b there member := by
    rw [entries]
    exact agrees.complete b (alive b there) (occupant ▸ member)

theorem registered_make (vacant : s.vacant b = true) :
    Tenancy.registered (s.1, s.2.make b) = s.registered := by
  apply List.map_congr_left
  intro c there
  have other : c ≠ b := fun same => (vacant_iff.mp vacant).2 (same ▸ there)
  simp [Storage.make, other]

theorem Agrees.make (agrees : Agrees A s) (vacant : s.vacant b = true) :
    Agrees A (s.1, s.2.make b) := by
  refine ⟨agrees.distinct, fun n member => Nat.le_succ_of_le (agrees.made n member), ?_, ?_⟩
  · rw [registered_make vacant]
    exact agrees.registered
  · intro c alive member
    by_cases new : c = b
    · -- its number is higher than all that the set can have
      subst new
      have high : s.2.made + 1 ≤ s.2.made := by simpa [Storage.make] using agrees.made _ member
      exact absurd high (Nat.not_succ_le_self _)
    · simp only [Storage.make, if_neg new] at member
      refine agrees.complete c ((Step.made vacant).alive alive |>.resolve_right ?_) member
      simp [Ne.symm new]

theorem Agrees.add (agrees : Agrees A s) (h : Housed s) (alive : s.alive b = true) :
    Agrees (if s.2.occupant b ∈ A then A else A ++ [s.2.occupant b]) ((s.1.add b).2, s.2) := by
  have occupied := h.inhabited b (.inl alive)
  by_cases inside : s.2.occupant b ∈ A
  · have there : s.1.contains b = true := by
      simpa [ObserverList.contains] using agrees.complete b alive inside
    rw [if_pos inside, ObserverList.add, if_pos there]
    exact agrees
  · have absent : s.1.contains b ≠ true := by
      simpa [ObserverList.contains] using (agrees.mem_iff alive).not.mp inside
    rw [if_neg inside]
    refine ⟨?_, ?_, ?_, ?_⟩
    · apply (List.perm_append_singleton _ _).nodup_iff.mpr
      exact List.nodup_cons.mpr ⟨inside, agrees.distinct⟩
    · intro n member
      rcases List.mem_append.mp member with old | new
      · exact agrees.made n old
      · rw [List.mem_singleton.mp new]
        exact h.made b
    · rw [Tenancy.registered, ObserverList.add, if_neg absent, List.map_append]
      exact agrees.registered.append (.refl _)
    · intro c still member
      apply ObserverList.mem_add.mpr
      rcases List.mem_append.mp member with old | new
      · exact .inr (agrees.complete c (alive_add.mp still) old)
      · exact .inl (h.inj occupied (List.mem_singleton.mp new).symm)

theorem Housed.registered_remove (h : Housed s) (occupied : s.2.occupant b ≠ 0) :
    Tenancy.registered ((s.1.remove b).2, s.2) = s.registered.filter (· ≠ s.2.occupant b) := by
  simp only [Tenancy.registered, ObserverList.remove, List.filter_map]
  congr 1
  apply List.filter_congr
  intro c there
  have differ : c = b ↔ s.2.occupant c = s.2.occupant b :=
    ⟨fun same => same ▸ rfl, fun same => (h.inj occupied same.symm).symm⟩
  simp [differ]

theorem Agrees.remove (agrees : Agrees A s) (h : Housed s) (alive : s.alive b = true) :
    Agrees (A.filter (· ≠ s.2.occupant b)) ((s.1.remove b).2, s.2) := by
  have occupied := h.inhabited b (.inl alive)
  refine ⟨agrees.distinct.filter _, ?_, ?_, ?_⟩
  · exact fun n member => agrees.made n (List.mem_filter.mp member).1
  · rw [h.registered_remove occupied]
    exact agrees.registered.filter _
  · intro c still member
    obtain ⟨inside, differs⟩ := List.mem_filter.mp member
    refine ObserverList.mem_remove.mpr ⟨?_, agrees.complete c still inside⟩
    rintro rfl
    exact of_decide_eq_true differs rfl

theorem Agrees.step (agrees : Agrees A s) (h : Housed s) (step : Step s event t) :
    Agrees (Deed.updates ⟨s, event, t⟩ A) t := by
  have shrinks (others : ∀ b, event ≠ .dealt (.make b) true) (b : Block)
      (alive : t.alive b = true) : s.alive b = true := (step.alive alive).resolve_right (others b)
  cases step with
  | made vacant => exact agrees.make vacant
  | gaveUp owned => exact agrees.of_same rfl rfl rfl (shrinks (by simp))
  | regained alive => exact agrees.of_same rfl rfl rfl (shrinks (by simp))
  | added alive => exact agrees.add h alive
  | removed alive => exact agrees.remove h alive
  | began =>
      refine ⟨agrees.distinct, agrees.made, ?_, fun b alive member => ?_⟩
      · exact (List.filter_sublist.map _).trans agrees.registered
      · have still := alive_opening.mp alive
        exact mem_opening.mpr ⟨agrees.complete b still member, still⟩
  | told => exact agrees
  | ended fewer => exact agrees.of_same rfl rfl rfl (shrinks (by simp))

/-- An observer that is dead and not registered. -/
structure Buried (n : Nat) (s : Tenancy) : Prop where
  made : n ≤ s.2.made
  dead : s.lives n = false
  absent : n ∉ s.registered

theorem lives_iff : s.lives n = true ↔ s.alive (s.2.home n) = true ∧ s.2.occupant (s.2.home n) = n := by
  simp [Tenancy.lives]

/-- A block that is used again houses somebody else. -/
theorem Step.lives (step : Step s event t) (made : n ≤ s.2.made) (lives : t.lives n = true) :
    s.lives n = true := by
  rw [lives_iff] at lives ⊢
  rcases step.storage with ⟨b, vacant, rfl, rfl⟩ | ⟨-, occupant, home, others⟩
  · obtain ⟨alive, own⟩ := lives
    have old : n ≠ s.2.made + 1 := Nat.ne_of_lt (Nat.lt_succ_of_le made)
    simp only [Storage.make, if_neg old] at alive own
    by_cases same : s.2.home n = b
    · rw [if_pos same] at own
      exact absurd own.symm old
    · rw [if_neg same] at own
      refine ⟨(step.alive alive).resolve_right ?_, own⟩
      simp [Ne.symm same]
  · rw [occupant, home] at lives
    exact ⟨(step.alive lives.1).resolve_right (others _), lives.2⟩

theorem Buried.step (buried : Buried n s) (h : Housed s) (step : Step s event t) : Buried n t := by
  have dead : t.lives n = false := by
    cases again : t.lives n with
    | false => rfl
    | true => exact (step.lives buried.made again).symm.trans buried.dead
  rcases step.storage with ⟨b, vacant, rfl, rfl⟩ | ⟨made, occupant, -, -⟩
  · refine ⟨Nat.le_succ_of_le buried.made, dead, ?_⟩
    rw [registered_make vacant]
    exact buried.absent
  · refine ⟨made ▸ buried.made, dead, fun member => ?_⟩
    obtain ⟨c, there, own⟩ := List.mem_map.mp member
    rw [occupant] at own
    rcases step.entries there with old | alive
    · exact buried.absent (own ▸ List.mem_map_of_mem old)
    · -- only the living are added
      have lives := h.lives_iff (h.inhabited c (.inl alive))
      rw [own, alive, buried.dead] at lives
      cases lives

/-- A pass buries all that are dead when it begins. -/
theorem buried_opening (h : Housed s) (member : n ∈ s.registered) (dead : s.lives n = false) :
    Buried n s.opening := by
  obtain ⟨b, there, rfl⟩ := List.mem_map.mp member
  have still : s.opening.lives (s.2.occupant b) = false := by
    cases again : s.opening.lives (s.2.occupant b) with
    | false => rfl
    | true => exact (Step.began.lives (h.made b) again).symm.trans dead
  refine ⟨h.made b, still, fun kept => ?_⟩
  obtain ⟨c, there', same⟩ := List.mem_map.mp kept
  have alive := (mem_opening.mp there').2
  have lives := h.lives_iff (h.inhabited c (.inl alive))
  rw [alive, show s.2.occupant c = s.2.occupant b from same, dead] at lives
  cases lives

/-- What a deed does to the registrations, with the set as it was before. -/
structure Accords (A : List Nat) (d : Deed) : Prop where
  distinct : d.before.1.entries.Nodup ∧ d.before.registered.Nodup
  living : (d.before.1.entries.filter d.before.alive).map d.before.2.occupant =
    A.filter d.before.lives
  added : ∀ b r, d.event = .dealt (.add b) r → let n := d.before.2.occupant b
    (r = true ↔ n ∉ A) ∧ (r = true ↔ n ∉ d.before.registered) ∧
      d.after.registered = (if r then d.before.registered ++ [n] else d.before.registered) ∧
      d.after.1.add b = (false, d.after.1)
  removed : ∀ b r, d.event = .dealt (.remove b) r → let n := d.before.2.occupant b
    (r = true ↔ n ∈ A) ∧ (r = true ↔ n ∈ d.before.registered) ∧
      d.after.registered = d.before.registered.filter (· ≠ n) ∧
      d.after.1.remove b = (false, d.after.1)
  began : d.event = .began → d.after.2 = d.before.2 ∧
    d.after.1.entries = d.before.1.entries.filter d.before.alive
  told : ∀ b, d.event = .told b → d.after = d.before
  ended : ∀ p, d.event = .ended p → d.after.2 = d.before.2 ∧ d.after.1.entries = d.before.1.entries
  owned : ∀ b r, d.event = .dealt (.make b) r ∨ d.event = .dealt (.giveUp b) r ∨
    d.event = .dealt (.regain b) r → d.after.1 = d.before.1 ∧ d.after.registered = d.before.registered

theorem accords (h : Housed s) (agrees : Agrees A s) (step : Step s event t) :
    Accords A ⟨s, event, t⟩ := by
  refine ⟨⟨h.distinct, h.registered_distinct⟩, agrees.living h, ?added, ?removed, ?began, ?told,
    ?ended, ?owned⟩
  case added =>
    rintro b r rfl
    cases step with
    | added alive =>
        have occupied := h.inhabited b (.inl alive)
        have result : (s.1.add b).1 = true ↔ b ∉ s.1.entries := by
          rw [ObserverList.add]
          split
          · next there => simpa [ObserverList.contains] using there
          · next absent => simpa [ObserverList.contains] using absent
        refine ⟨?_, ?_, ?_, ObserverList.add_add s.1 b⟩
        · rw [result, agrees.mem_iff alive]
        · rw [result, h.mem_registered occupied]
        · simp only [Tenancy.registered, ObserverList.add]
          split
          · rfl
          · simp
  case removed =>
    rintro b r rfl
    cases step with
    | removed alive =>
        have occupied := h.inhabited b (.inl alive)
        have result : (s.1.remove b).1 = true ↔ b ∈ s.1.entries := by
          simp [ObserverList.remove, ObserverList.contains]
        refine ⟨?_, ?_, h.registered_remove occupied, ObserverList.remove_remove s.1 b⟩
        · rw [result, agrees.mem_iff alive]
        · rw [result, h.mem_registered occupied]
  case began =>
    rintro rfl
    cases step
    exact ⟨rfl, rfl⟩
  case told =>
    rintro b rfl
    cases step
    rfl
  case ended =>
    rintro p rfl
    cases step
    exact ⟨rfl, rfl⟩
  case owned =>
    rintro b r (rfl | rfl | rfl)
    · cases step with
      | made vacant => exact ⟨rfl, registered_make vacant⟩
    · cases step
      exact ⟨rfl, rfl⟩
    · cases step
      exact ⟨rfl, rfl⟩

/-- The observer is added in it, whether or not it is registered already. -/
def Deed.Adds (n : Nat) (d : Deed) : Prop :=
  ∃ b r, d.event = .dealt (.add b) r ∧ d.before.2.occupant b = n

def Deed.Removes (n : Nat) (d : Deed) : Prop :=
  ∃ b r, d.event = .dealt (.remove b) r ∧ d.before.2.occupant b = n

theorem Deed.mem_updates {d : Deed} (member : n ∈ d.updates A) : n ∈ A ∨ d.Adds n := by
  unfold updates at member
  split at member
  · next b r added =>
      split at member
      · exact .inl member
      · rcases List.mem_append.mp member with old | new
        · exact .inl old
        · exact .inr ⟨b, r, added, (List.mem_singleton.mp new).symm⟩
  · exact .inl (List.mem_filter.mp member).1
  · exact .inl member

theorem Deed.Removes.not_mem {d : Deed} (removes : d.Removes n) (A : List Nat) :
    n ∉ d.updates A := by
  obtain ⟨b, r, removed, rfl⟩ := removes
  simp [updates, removed]

theorem mem_ordered {deeds later : List Deed} (member : n ∈ ordered (deeds ++ later)) :
    n ∈ ordered deeds ∨ ∃ d ∈ later, d.Adds n := by
  induction later generalizing deeds with
  | nil => exact .inl (by simpa using member)
  | cons d rest ih =>
      rw [List.append_cons] at member
      rcases ih member with here | ⟨e, further, adds⟩
      · rw [ordered_snoc] at here
        rcases Deed.mem_updates here with old | adds
        · exact .inl old
        · exact .inr ⟨d, List.mem_cons_self, adds⟩
      · exact .inr ⟨e, List.mem_cons_of_mem _ further, adds⟩

theorem Linked.buried {deeds : List Deed} (linked : Linked s deeds t) (h : Housed s)
    (buried : Buried n s) : ∀ d ∈ deeds, Buried n d.before ∧ Buried n d.after := by
  induction linked with
  | none => simp
  | next step rest ih =>
      have here := buried.step h step
      intro d member
      rcases List.mem_cons.mp member with rfl | later
      · exact ⟨buried, here⟩
      · exact ih (h.step step) here d later

theorem Linked.split {earlier later : List Deed} (linked : Linked s (earlier ++ later) u) :
    ∃ t, Linked s earlier t ∧ Linked t later u := by
  induction earlier generalizing s with
  | nil => exact ⟨s, .none s, linked⟩
  | cons d earlier ih =>
      cases linked with
      | next step rest =>
          obtain ⟨t, here, there⟩ := ih rest
          exact ⟨t, .next step here, there⟩

theorem Linked.agrees {first deeds : List Deed} (linked : Linked s deeds t) (h : Housed s)
    (agrees : Agrees (ordered first) s) : Housed t ∧ Agrees (ordered (first ++ deeds)) t := by
  induction linked generalizing first with
  | none => exact ⟨h, by simpa using agrees⟩
  | @next s event t deeds u step rest ih =>
      have further := agrees.step h step
      rw [← ordered_snoc first ⟨s, event, t⟩] at further
      rw [List.append_cons]
      exact ih (h.step step) further

theorem housed_empty : Housed ({}, {}) :=
  ⟨by simp, by simp, by simp [Tenancy.alive, ObserverList.alive], List.nodup_nil⟩

theorem agrees_empty : Agrees (ordered []) ({}, {}) :=
  ⟨List.nodup_nil, by simp [ordered], List.nil_sublist _, by simp [ordered]⟩

variable {earlier later : List Deed} {d : Deed}

/-- Every deed is a step from a state that agrees with the set so far. -/
theorem Linked.within (linked : Linked ({}, {}) (earlier ++ d :: later) u) :
    Housed d.before ∧ Agrees (ordered earlier) d.before ∧ Step d.before d.event d.after ∧
      Linked d.after later u := by
  obtain ⟨s, before, rest⟩ := linked.split
  obtain ⟨housed, agreed⟩ := before.agrees housed_empty agrees_empty
  cases rest with
  | next step after => exact ⟨housed, agreed, step, after⟩

theorem Linked.accords (linked : Linked ({}, {}) (earlier ++ d :: later) u) :
    Accords (ordered earlier) d := by
  obtain ⟨housed, agreed, step, -⟩ := linked.within
  exact Dealings.accords housed agreed step

theorem Linked.newcomer {r : Bool} (linked : Linked ({}, {}) (earlier ++ d :: later) u)
    (added : d.event = .dealt (.add b) r)
    (never : ∀ e ∈ earlier, ¬ e.Adds (d.before.2.occupant b)) : r = true := by
  apply (linked.accords.added b r added).1.mpr
  intro member
  rw [← List.nil_append earlier] at member
  rcases mem_ordered member with none | ⟨e, early, adds⟩
  · cases none
  · exact never e early adds

theorem Linked.returned {between : List Deed} {e : Deed} {r : Bool}
    (linked : Linked ({}, {}) (earlier ++ d :: (between ++ e :: later)) u) (removes : d.Removes n)
    (never : ∀ x ∈ between, ¬ x.Adds n) (added : e.event = .dealt (.add b) r)
    (own : e.before.2.occupant b = n) :
    r = true ∧ e.after.registered = e.before.registered ++ [n] := by
  subst own
  rw [← List.cons_append, ← List.append_assoc] at linked
  obtain ⟨fresh, -, grown, -⟩ := linked.accords.added b r added
  have result : r = true := by
    apply fresh.mpr
    rw [List.append_cons]
    intro member
    rcases mem_ordered member with old | ⟨x, amid, adds⟩
    · rw [ordered_snoc] at old
      exact removes.not_mem _ old
    · exact never x amid adds
  rw [if_pos result] at grown
  exact ⟨result, grown⟩

theorem Linked.dropped (linked : Linked ({}, {}) (earlier ++ d :: later) u)
    (began : d.event = .began) (member : n ∈ d.before.registered) (dead : d.before.lives n = false) :
    n ∉ d.after.registered ∧ ∀ e ∈ later, n ∉ e.before.registered ∧ n ∉ e.after.registered := by
  obtain ⟨housed, -, step, rest⟩ := linked.within
  obtain ⟨s, event, t⟩ := d
  subst began
  change Step s .began t at step
  cases step with
  | began =>
      have buried := buried_opening housed member dead
      refine ⟨buried.absent, fun e further => ?_⟩
      obtain ⟨first, last⟩ := rest.buried (housed.step .began) buried e further
      exact ⟨first.absent, last.absent⟩

/-- A history in which the registrations of the living are a set in the order of insertion. -/
structure OrderedSet (history : List Deed) (last : Tenancy) : Prop where
  linked : Linked ({}, {}) history last
  accords : ∀ earlier d later, history = earlier ++ d :: later → Accords (ordered earlier) d
  last : last.1.entries.Nodup ∧ last.registered.Nodup ∧
    (last.1.entries.filter last.alive).map last.2.occupant = (ordered history).filter last.lives
  /-- Whoever was there before, an observer can be added that never was. -/
  newcomer : ∀ earlier d later b r, history = earlier ++ d :: later →
    d.event = .dealt (.add b) r → (∀ e ∈ earlier, ¬ e.Adds (d.before.2.occupant b)) → r = true
  /-- An observer that comes back comes last. -/
  returned : ∀ n earlier d between e later b r,
    history = earlier ++ d :: (between ++ e :: later) → d.Removes n →
    (∀ x ∈ between, ¬ x.Adds n) → e.event = .dealt (.add b) r → e.before.2.occupant b = n →
      r = true ∧ e.after.registered = e.before.registered ++ [n]
  /-- No registration outlives the beginning of a pass in which its observer is dead. -/
  buried : ∀ earlier d later, history = earlier ++ d :: later → d.event = .began →
    ∀ n ∈ d.before.registered, d.before.lives n = false →
      n ∉ d.after.registered ∧ ∀ e ∈ later, n ∉ e.before.registered ∧ n ∉ e.after.registered

theorem Linked.orderedSet {history : List Deed} (linked : Linked ({}, {}) history u) :
    OrderedSet history u := by
  refine ⟨linked, ?accords, ?last, ?newcomer, ?returned, ?buried⟩
  case accords =>
    rintro earlier d later rfl
    exact linked.accords
  case last =>
    obtain ⟨housed, agreed⟩ := linked.agrees housed_empty agrees_empty
    exact ⟨housed.distinct, housed.registered_distinct, agreed.living housed⟩
  case newcomer =>
    rintro earlier d later b r rfl
    exact linked.newcomer
  case returned =>
    rintro n earlier d between e later b r rfl
    exact linked.returned
  case buried =>
    rintro earlier d later rfl began n
    exact linked.dropped began

/-- Whatever owners and observers do, and wherever passes end. -/
theorem observers_form_ordered_set (script : Dealings) :
    OrderedSet (script.history ({}, {})) (Control.final script.run ({}, {})) :=
  (linked script ({}, {})).orderedSet

/-- A registration keeps its block: the second observer that is made there has to wait for a pass, and
then it is another one. -/
example :
    let script : Dealings :=
      .deal (.make 4) fun _ => .deal (.add 4) fun _ => .deal (.giveUp 4) fun _ =>
      .deal (.make 4) fun _ => .pass (fun _ => .done) fun _ => .deal (.make 4) fun _ =>
      .deal (.add 4) fun _ => .done
    (script.history ({}, {})).map (·.event) =
        [.dealt (.make 4) true, .dealt (.add 4) true, .dealt (.giveUp 4) true, .began, .ended none,
          .dealt (.make 4) true, .dealt (.add 4) true] ∧
      (Control.final script.run ({}, {})).registered = [2] := by
  decide +kernel

end Dealings

end FilterDispatch
