import FilterDispatch.Proofs.Observer.Passes

/-!
The law of a pass: whom it tells, in which order, and whom nobody tells again.  It holds of every
pass that begins while a script is run.
-/

namespace FilterDispatch

variable {σ : Type} {owned : σ → ObserverId → Bool}

namespace Script

theorem distinct_kept : Invariant owned fun s => s.1.entries.Nodup where
  add o distinct := ObserverList.add_nodup o distinct
  remove _ distinct := distinct.filter _
  act _ _ distinct := distinct
  opens distinct := distinct.filter _
  ends _ distinct := distinct

/-- Nobody owns the observer, and no pass that runs has collected it. -/
def Gone (owned : σ → ObserverId → Bool) (o : ObserverId) (s : ObserverList × σ) : Prop :=
  owned s.2 o = false ∧ o ∉ s.1.held

theorem Gone.not_collected {o : ObserverId} {s : ObserverList × σ} (gone : Gone owned o s) :
    o ∉ (s.1.prune (owned s.2)).entries := by
  intro member
  have alive := (List.mem_filter.mp member).2
  simp [ObserverList.alive, gone.1, gone.2] at alive

theorem gone_kept (o : ObserverId) : Invariant owned (Gone owned o) where
  add {s} other gone := by
    rw [ObserverList.add]
    split <;> exact gone
  remove other gone := gone
  act {s} change frees gone := by
    refine ⟨?_, gone.2⟩
    cases again : owned (change s.2) o with
    | false => rfl
    | true => exact absurd (frees s.2 o again) (by simp [gone.1])
  opens {s} gone := by
    refine ⟨gone.1, fun member => ?_⟩
    rcases List.mem_append.mp member with before | now
    · exact gone.2 before
    · exact gone.not_collected now
  ends before after := ⟨after.1, before.2⟩

theorem held_run (script : Script owned) (s : ObserverList × σ) :
    (Control.final script.run s).1.held = s.1.held := by
  induction script generalizing s with
  | done => rfl
  | panic p => rfl
  | add o next ih =>
      refine (ih _ _).trans ?_
      rw [ObserverList.add]
      split <;> rfl
  | remove o next ih => exact (ih _ _).trans rfl
  | act change frees next ih => exact (ih _ _).trans rfl
  | pass react next told ih =>
      obtain ⟨r, ran, -, -⟩ := pass_cases react next s
      rw [ran, ih, Pass.after_eq]
      rfl

/-- Nowhere in the script is the observer removed. -/
def Spares (o : ObserverId) : Script owned → Prop
  | .done | .panic _ => True
  | .add _ next => ∀ b, (next b).Spares o
  | .remove other next => other ≠ o ∧ ∀ b, (next b).Spares o
  | .act _ _ next => ∀ h, (next h).Spares o
  | .pass react next => (∀ other, (react other).Spares o) ∧ ∀ r, (next r).Spares o

/-- An observer that a pass has collected stays registered unless it is removed, whether or not
anybody owns it. -/
theorem Spares.run {o : ObserverId} {script : Script owned} (spares : script.Spares o)
    {s : ObserverList × σ} (holds : o ∈ s.1.held ∧ o ∈ s.1.entries) :
    o ∈ (Control.final script.run s).1.held ∧ o ∈ (Control.final script.run s).1.entries := by
  refine ⟨(held_run script s).symm ▸ holds.1, ?_⟩
  induction script generalizing s with
  | done => exact holds.2
  | panic p => exact holds.2
  | add other next ih =>
      refine ih _ (spares _) ?_
      rw [ObserverList.add]
      split
      · exact holds
      · exact ⟨holds.1, List.mem_append_left _ holds.2⟩
  | remove other next ih =>
      refine ih _ (spares.2 _) ⟨holds.1, ?_⟩
      exact List.mem_filter.mpr ⟨holds.2, by simpa using spares.1.symm⟩
  | act change frees next ih => exact ih _ (spares _) holds
  | pass react next told ih =>
      obtain ⟨r, ran, -, -⟩ := pass_cases react next s
      rw [ran, Pass.after_eq]
      refine ih r (spares.2 r) ⟨holds.1, ?_⟩
      have alive : s.1.alive (owned s.2) o = true := by simp [ObserverList.alive, holds.1]
      let p : Pass owned := ⟨react, s⟩
      have kept := ObserverList.passOver_keeps p.tell p.collected (s := p.opening)
        (P := fun t : ObserverList × σ => o ∈ t.1.held ∧ o ∈ t.1.entries)
        (fun other _ t there => ⟨(held_run (react other) t).symm ▸ there.1,
          told other (spares.1 other) there⟩)
        ⟨List.mem_append_left _ holds.1, List.mem_filter.mpr ⟨holds.2, alive⟩⟩
      exact kept.2

end Script

namespace Pass

theorem held_kept (p : Pass owned) (o : ObserverId) (s : ObserverList × σ)
    (same : s.1.held = p.start.1.held ++ p.collected) :
    (Control.final (p.tell o) s).1.held = p.start.1.held ++ p.collected :=
  (Script.held_run (p.react o) s).trans same

theorem held_before (p : Pass owned) {i : Invocation σ} (member : i ∈ p.invocations) :
    i.before.1.held = p.start.1.held ++ p.collected :=
  ObserverList.before_keeps p.tell p.collected
    (P := fun t : ObserverList × σ => t.1.held = p.start.1.held ++ p.collected)
    (fun o _ => p.held_kept o) rfl member

theorem held_after (p : Pass owned) : p.after.1.held = p.start.1.held := by
  rw [after_eq]
  rfl

theorem gone_after (p : Pass owned) {o : ObserverId} (gone : Script.Gone owned o
    (Control.final (ObserverList.passOver p.tell p.collected) p.opening)) :
    Script.Gone owned o p.after := by
  have same := ObserverList.passOver_keeps p.tell p.collected
    (P := fun t : ObserverList × σ => t.1.held = p.start.1.held ++ p.collected)
    (fun o _ => p.held_kept o) (s := p.opening) rfl
  refine ⟨by rw [after_eq]; exact gone.1, fun member => gone.2 ?_⟩
  rw [p.held_after] at member
  rw [same]
  exact List.mem_append_left _ member

end Pass

namespace Script

theorem gone_trace (o : ObserverId) (script : Script owned) (s : ObserverList × σ) :
    (∀ m ∈ script.trace s, Gone owned o m.state → Gone owned o (Control.final script.run s)) ∧
      (script.trace s).Pairwise (fun m n => Gone owned o m.state → Gone owned o n.state) := by
  induction script generalizing s with
  | done => exact ⟨fun m member => absurd member List.not_mem_nil, List.Pairwise.nil⟩
  | panic p => exact ⟨fun m member => absurd member List.not_mem_nil, List.Pairwise.nil⟩
  | add other next ih => exact ih _ _
  | remove other next ih => exact ih _ _
  | act change frees next ih => exact ih _ _
  | pass react next told ih =>
      obtain ⟨r, ran, -, all⟩ := pass_cases react next s
      rw [all, ran]
      let p : Pass owned := ⟨react, s⟩
      obtain ⟨between, toEnd⟩ := ObserverList.invocations_keep p.tell p.collected
        (P := Gone owned o) (fun other _ t gone => (gone_kept o).run (react other) gone) p.opening
      have leaves : ∀ i : Invocation σ, ∀ m ∈ (⟨some i.observer, i.before⟩ ::
          (react i.observer).trace i.before : List (Moment σ)), Gone owned o m.state →
          Gone owned o (Control.final (p.tell i.observer) i.before) := by
        intro i m member gone
        rcases List.mem_cons.mp member with rfl | further
        · exact (gone_kept o).run (react i.observer) gone
        · exact (told i.observer i.before).1 m further gone
      constructor
      · intro m member gone
        rcases List.mem_append.mp member with inside | ended
        · obtain ⟨i, invoked, there⟩ := List.mem_flatMap.mp inside
          exact (gone_kept o).run (next r) (p.gone_after (toEnd i invoked (leaves i m there gone)))
        · rcases List.mem_cons.mp ended with rfl | later
          · exact (gone_kept o).run (next r) gone
          · exact (ih r p.after).1 m later gone
      · refine List.pairwise_append.mpr ⟨List.pairwise_flatMap.mpr ⟨fun i invoked => ?_, ?_⟩,
          List.pairwise_cons.mpr ⟨?_, (ih r p.after).2⟩, ?_⟩
        · exact List.pairwise_cons.mpr
            ⟨fun n further gone => (gone_kept o).trace (react i.observer) gone n further,
              (told i.observer i.before).2⟩
        · refine between.imp fun {i j} next m early n late gone => ?_
          have begun := next (leaves i m early gone)
          rcases List.mem_cons.mp late with rfl | further
          · exact begun
          · exact (gone_kept o).trace (react j.observer) begun n further
        · exact fun n later gone => (gone_kept o).trace (next r) gone n later
        · intro m inside n later gone
          obtain ⟨i, invoked, there⟩ := List.mem_flatMap.mp inside
          have ended := p.gone_after (toEnd i invoked (leaves i m there gone))
          rcases List.mem_cons.mp later with rfl | further
          · exact ended
          · exact (gone_kept o).trace (next r) ended n further

theorem told_held (script : Script owned) (s : ObserverList × σ) :
    ∀ m ∈ script.trace s, ∀ o, m.told = some o → o ∈ m.state.1.held := by
  induction script generalizing s with
  | done => exact fun m member => absurd member List.not_mem_nil
  | panic p => exact fun m member => absurd member List.not_mem_nil
  | add other next ih => exact ih _ _
  | remove other next ih => exact ih _ _
  | act change frees next ih => exact ih _ _
  | pass react next told ih =>
      obtain ⟨r, -, -, all⟩ := pass_cases react next s
      rw [all]
      intro m member o who
      rcases List.mem_append.mp member with inside | ended
      · obtain ⟨i, invoked, there⟩ := List.mem_flatMap.mp inside
        rcases List.mem_cons.mp there with rfl | further
        · have collected := (ObserverList.invoked_sublist _ _ _).subset
            (List.mem_map_of_mem (f := Invocation.observer) invoked)
          rw [Pass.held_before ⟨react, s⟩ invoked, ← Option.some.inj who]
          exact List.mem_append_right _ collected
        · exact told i.observer i.before m further o who
      · rcases List.mem_cons.mp ended with rfl | later
        · cases who
        · exact ih r _ m later o who

end Script

namespace Pass

theorem mem_collected {p : Pass owned} {o : ObserverId} : o ∈ p.collected ↔
    o ∈ p.start.1.entries ∧ p.start.1.alive (owned p.start.2) o = true :=
  List.mem_filter

theorem earlier_eq {p : Pass owned} {o : ObserverId} {first later : List ObserverId}
    (split : p.collected = first ++ o :: later) (fresh : o ∉ first) : p.earlier o = first := by
  rw [earlier, split, List.takeWhile_append_of_pos, List.takeWhile_cons_of_neg (by simp),
    List.append_nil]
  intro other member
  simpa using fun same : other = o => fresh (same ▸ member)

theorem collected_split {p : Pass owned} {o : ObserverId} (member : o ∈ p.collected) :
    ∃ later, p.collected = p.earlier o ++ o :: later := by
  obtain ⟨first, later, split, fresh⟩ := List.eq_append_cons_of_mem member
  exact ⟨later, by rw [earlier_eq split fresh, split]⟩

/-- What a pass does, whatever those that it tells do on the way. -/
structure Lawful (p : Pass owned) : Prop where
  told : ObserverList.passOver p.tell p.collected p.opening = forM p.invoked p.tell p.opening
  found : ∀ i ∈ p.invocations,
    ObserverList.passOver p.tell (p.earlier i.observer) p.opening = .ok () i.before
  /-- Registered and alive at the start, registered when its turn comes, and no panic before. -/
  invoked_iff : ∀ o, o ∈ p.invoked ↔
    (o ∈ p.start.1.entries ∧ p.start.1.alive (owned p.start.2) o = true) ∧
      (∀ t, ObserverList.passOver p.tell (p.earlier o) p.opening = .ok () t →
        t.1.contains o = true) ∧
      ∀ i ∈ p.invocations, i.observer ∈ p.earlier o → ∃ t, p.tell i.observer i.before = .ok () t
  once : p.invoked.Nodup
  inOrder : p.invoked.Sublist p.start.1.entries
  newcomer : ∀ o, o ∉ p.start.1.entries → o ∉ p.invoked
  /-- However often it was removed and added again in between. -/
  returned : ∀ o ∈ p.collected, ∀ t,
    ObserverList.passOver p.tell (p.earlier o) p.opening = .ok () t → t.1.contains o = true →
      o ∈ p.invoked
  /-- Whoever owns it by then. -/
  givenUp : ∀ o ∈ p.collected, (∀ other ∈ p.earlier o, (p.react other).Spares o) →
    (∀ i ∈ p.invocations, i.observer ∈ p.earlier o → ∃ t, p.tell i.observer i.before = .ok () t) →
      o ∈ p.invoked
  held : ∀ i ∈ p.invocations, i.before.1.held = p.start.1.held ++ p.collected
  released : p.after.1.held = p.start.1.held

theorem lawful {p : Pass owned} (distinct : p.start.1.entries.Nodup) : p.Lawful := by
  have collected_sub : p.collected.Sublist p.start.1.entries := List.filter_sublist
  have collected_distinct : p.collected.Nodup := distinct.filter _
  have sub : p.invoked.Sublist p.collected := ObserverList.invoked_sublist p.tell _ _
  have passed : ∀ {o later}, p.collected = p.earlier o ++ o :: later →
      ((∃ t, ObserverList.passOver p.tell (p.earlier o) p.opening = .ok () t) ↔
        ∀ i ∈ p.invocations, i.observer ∈ p.earlier o →
          ∃ t, p.tell i.observer i.before = .ok () t) := by
    intro o later split
    have early := ObserverList.mem_invocations_append p.tell (split ▸ collected_distinct) p.opening
    rw [← split] at early
    rw [ObserverList.passOver_returns_iff]
    exact ⟨fun all i member turn => all i ((early i).mp ⟨member, turn⟩),
      fun all i member => all i ((early i).mpr member).1 ((early i).mpr member).2⟩
  have turn : ∀ {o later}, p.collected = p.earlier o ++ o :: later → (o ∈ p.invoked ↔
      ∃ t, ObserverList.passOver p.tell (p.earlier o) p.opening = .ok () t ∧
        t.1.contains o = true) := by
    intro o later split
    have reached := ObserverList.invoked_iff_of_split p.tell (s := p.opening)
      (split ▸ collected_distinct)
    rwa [← split] at reached
  refine ⟨ObserverList.passOver_eq_forM p.tell _ _, ?found, ?invoked_iff,
    sub.nodup collected_distinct, sub.trans collected_sub,
    fun o absent member => absent (collected_sub.subset (sub.subset member)), ?returned, ?givenUp,
    fun i => p.held_before, p.held_after⟩
  case found =>
    intro i member
    obtain ⟨first, later, split, came, -⟩ := ObserverList.invocations_split p.tell member
    have fresh : i.observer ∉ first := fun early =>
      (List.nodup_append.mp (split ▸ collected_distinct)).2.2 _ early _ List.mem_cons_self rfl
    rwa [earlier_eq split fresh]
  case invoked_iff =>
    intro o
    rw [← mem_collected]
    constructor
    · intro member
      obtain ⟨later, split⟩ := collected_split (sub.subset member)
      obtain ⟨t, came, there⟩ := (turn split).mp member
      refine ⟨sub.subset member, fun u also => ?_, (passed split).mp ⟨t, came⟩⟩
      rw [came] at also
      cases also
      exact there
    · rintro ⟨member, registered, quiet⟩
      obtain ⟨later, split⟩ := collected_split member
      obtain ⟨t, came⟩ := (passed split).mpr quiet
      exact (turn split).mpr ⟨t, came, registered t came⟩
  case returned =>
    intro o member t came there
    obtain ⟨later, split⟩ := collected_split member
    exact (turn split).mpr ⟨t, came, there⟩
  case givenUp =>
    intro o member spared quiet
    obtain ⟨later, split⟩ := collected_split member
    obtain ⟨t, came⟩ := (passed split).mpr quiet
    have kept := ObserverList.passOver_keeps p.tell (p.earlier o) (s := p.opening)
      (P := fun t : ObserverList × σ => o ∈ t.1.held ∧ o ∈ t.1.entries)
      (fun other early t there => (spared other early).run there)
      ⟨List.mem_append_right _ member, member⟩
    rw [Control.final_ok came] at kept
    exact (turn split).mpr ⟨t, came, by simpa [ObserverList.contains] using kept.2⟩

end Pass

/-- Passes keep the law at any depth, and one that is given up is not told again once every pass
that collected it has ended. -/
structure Script.Lawful (script : Script owned) (s : ObserverList × σ) : Prop where
  passes : ∀ p ∈ script.passes s, p.Lawful
  gone : (script.trace s).Pairwise fun m n =>
    ∀ o, owned m.state.2 o = false → o ∉ m.state.1.held → n.told ≠ some o

theorem Script.passes_lawful (script : Script owned) {s : ObserverList × σ}
    (distinct : s.1.entries.Nodup) : script.Lawful s where
  passes p member := Pass.lawful (distinct_kept.passes script distinct p member)
  gone := by
    have later : (script.trace s).Pairwise fun m n =>
        ∀ o, Gone owned o m.state → Gone owned o n.state :=
      List.pairwise_iff_forall_sublist.mpr fun pair o =>
        List.pairwise_iff_forall_sublist.mp (gone_trace o script s).2 pair
    refine later.imp_of_mem fun {m n} _ member still o unowned released who => ?_
    exact (still o ⟨unowned, released⟩).2 (told_held script s n member o who)

/-- The first observer registers the third anew, has the fourth given up, registers a ninth and
starts a pass of its own; the fourth panics.  The last pass finds the fourth dead. -/
theorem given_up_observer_lawful :
    let owned : List ObserverId → ObserverId → Bool := fun host o => host.contains o
    let giveUp (next : Script owned) : Script owned :=
      .act (·.filter (· ≠ 4)) (fun host o again => by simp_all [owned]) fun _ => next
    let first : Script owned := .remove 3 fun _ => .add 3 fun _ => giveUp <| .add 9 fun _ =>
      .pass (fun o => if o = 2 then .remove 9 fun _ => .done else .done) fun _ => .done
    let react (o : ObserverId) : Script owned :=
      if o = 1 then first else if o = 4 then .panic .value else .done
    let script : Script owned := .pass react fun _ => .pass (fun _ => .done) fun _ => .done
    let s : ObserverList × List ObserverId := (⟨[1, 2, 3, 4, 5], []⟩, [1, 2, 3, 4, 5, 9])
    script.Lawful s ∧
      (script.passes s).map Pass.invoked = [[1, 2, 3, 4], [1, 2, 4, 5, 3], [1, 2, 5, 3]] := by
  intro owned giveUp first react script s
  exact ⟨script.passes_lawful (by decide), by decide +kernel⟩

end FilterDispatch
