import FilterDispatch.Proofs.Dispatcher.Callbacks

/-!
Custody of callbacks.  A callback that was handed in is kept in one entry until it is invoked; no
operation loses one or invokes one twice, except that a call that panics may drop its own.  None of
this needs that outcomes come from the queue.
-/

namespace FilterDispatch

/-- The callbacks that are invoked, one after the other. -/
def invoked (effects : List Effect) : List CallId :=
  (effects.filterMap Effect.answer?).map (·.1)

theorem invoked_flatMap {α : Type} (f : α → List Effect) (xs : List α) :
    invoked (xs.flatMap f) = xs.flatMap fun x => invoked (f x) := by
  simp only [invoked, List.filterMap_flatMap, List.map_flatMap]

theorem invoked_eq_nil {effects : List Effect} (silent : ∀ x ∈ effects, x.answer? = none) :
    invoked effects = [] := by
  rw [invoked, List.map_eq_nil_iff, List.filterMap_eq_nil_iff]
  exact silent

namespace Dispatcher

variable {σ : Type}

/-- The callbacks that entries are kept for. -/
def awaited (d : Dispatcher σ) : List CallId :=
  d.pending.filterMap (·.2.callback?)

theorem awaited_posting (job : Job) (entry : Pending) (d : Dispatcher σ) :
    (d.posting job entry).awaited = d.awaited ++ entry.callback?.toList := by
  simp only [awaited, posting, List.filterMap_append, List.filterMap_cons, List.filterMap_nil]
  cases entry.callback? with
  | none => rfl
  | some call => rfl

/-- Entries are kept for jobs on their way, at most one for each.  Unlike `InStep` this outlives
outcomes that are handed in from outside. -/
structure Orderly (d : Dispatcher σ) : Prop where
  accounted : d.queue.Accounted
  distinct : (d.pending.map (·.1)).Nodup
  among : ∀ id ∈ d.pending.map (·.1), id ∈ d.queue.outstanding

theorem InStep.orderly {engine : Engine} {d : Dispatcher σ} (h : d.InStep engine) : d.Orderly :=
  ⟨h.accounted, h.distinct, fun _ member => h.keys.mem_iff.mp member⟩

theorem Orderly.of_keeps {P : Effect → Prop} {d e : Dispatcher σ} (h : d.Orderly)
    (kept : Keeps P d e) : e.Orderly := by
  refine ⟨?_, ?_, ?_⟩
  · rw [kept.queue]
    exact h.accounted
  · rw [kept.pending]
    exact h.distinct
  · rw [kept.queue, kept.pending]
    exact h.among

theorem Orderly.posting {d : Dispatcher σ} (h : d.Orderly) (job : Job) (entry : Pending) :
    (d.posting job entry).Orderly := by
  have more := WorkQueue.outstanding_post d.queue job
  have keys : ((d.posting job entry).pending.map (·.1)).Perm
      (d.queue.nextId :: d.pending.map (·.1)) := by
    simp only [Dispatcher.posting, List.map_append, List.map_cons, List.map_nil]
    exact List.perm_append_singleton _ _
  refine ⟨h.accounted.post job, keys.nodup_iff.mpr (List.nodup_cons.mpr ⟨?_, h.distinct⟩), ?_⟩
  · exact fun kept => h.accounted.nextId_fresh (h.among _ kept)
  · intro id member
    rcases List.mem_cons.mp (keys.mem_iff.mp member) with rfl | old
    · exact more.mem_iff.mpr List.mem_cons_self
    · exact more.mem_iff.mpr (List.mem_cons_of_mem _ (h.among id old))

theorem Orderly.idle {d : Dispatcher σ} (h : d.Orderly) (idle : d.inFlight = 0) :
    d.pending = [] := by
  have empty := h.accounted.idle_iff.mp idle
  rw [← List.map_eq_nil_iff, List.eq_nil_iff_forall_not_mem]
  intro id member
  have there := h.among id member
  rw [empty] at there
  cases there

variable [Host σ] {engine : Engine} {d e : Dispatcher σ} {xs : List (Delivery σ)}

theorem Orderly.complete (h : d.Orderly) (f : Finished JobOutput) :
    (Control.final (complete f) d).Orderly := by
  refine ⟨?_, ?_, ?_⟩
  · rw [complete_queue]
    exact h.accounted
  · rw [complete_pending]
    exact (List.filter_sublist.map _).nodup h.distinct
  · rw [complete_queue, complete_pending]
    exact fun id member => h.among id ((List.filter_sublist.map _).subset member)

theorem Orderly.delivers (h : d.Orderly) (delivers : Delivers d xs e) : e.Orderly := by
  induction delivers with
  | done d => exact h
  | @next d f queue rest e found delivers ih =>
      apply ih
      have less := WorkQueue.outstanding_tryNext found
      refine ⟨?_, ?_, ?_⟩
      · rw [complete_queue]
        exact (h.accounted.tryNext found).1
      · rw [complete_pending]
        exact (List.filter_sublist.map _).nodup h.distinct
      · rw [complete_queue, complete_pending]
        intro id member
        obtain ⟨kept, there, rfl⟩ := List.mem_map.mp member
        obtain ⟨there, other⟩ := List.mem_filter.mp there
        have still := less.mem_iff.mp (h.among kept.1 (List.mem_map.mpr ⟨kept, there, rfl⟩))
        exact (List.mem_cons.mp still).resolve_left (of_decide_eq_true other)

theorem Course.orderly {op : Op σ} {r : Except Panic Response} (course : Course engine op d xs r e)
    (h : d.Orderly) : e.Orderly := by
  cases course with
  | answered call looked received => exact h.of_keeps (logged_keeps _ _ d)
  | posted call looked => exact (h.of_keeps (logged_keeps _ _ d)).posting _ _
  | failed call fails => exact h.of_keeps fails.keeps
  | checked => exact h.posting _ _
  | aside call drains kept => exact h.of_keeps kept
  | worked call drains accounted ids moved carries =>
      exact ⟨accounted, h.distinct, fun id member => moved.mem_iff.mp (h.among id member)⟩
  | drained call drains delivers => exact h.delivers delivers

theorem complete_custody (f : Finished JobOutput) (distinct : (d.pending.map (·.1)).Nodup) :
    d.awaited.Perm (invoked (effectsSince d (Control.final (complete f) d)) ++
      (Control.final (complete f) d).awaited) := by
  obtain ⟨new, grown, answers, -, -, kept⟩ := complete_summary f d
  rw [effectsSince_eq grown, awaited, awaited, kept, invoked, answers]
  cases known : d.pending.lookup f.id with
  | none =>
      have others : d.pending.filter (fun e => e.1 ≠ f.id) = d.pending :=
        congrArg Dispatcher.pending (forgetting_of_none known)
      rw [others]
      exact .refl _
  | some entry =>
      have moved := WorkQueue.perm_cons_without distinct ((lookup_eq_some distinct).mp known)
      have told : ((entry.reply? f.output).toList).map (·.1) = entry.callback?.toList := by
        rw [← entry.reply?_callback f.output]
        cases entry.reply? f.output with
        | none => rfl
        | some reply => rfl
      rw [Option.bind_some, told]
      apply (moved.filterMap _).trans
      cases callback : entry.callback? with
      | none =>
          simp only [List.filterMap_cons, callback]
          exact .refl _
      | some call =>
          simp only [List.filterMap_cons, callback]
          exact .refl _

theorem Delivers.custody (delivers : Delivers d xs e) (distinct : (d.pending.map (·.1)).Nodup) :
    d.awaited.Perm (invoked (effectsSince d e) ++ e.awaited) := by
  rw [effectsSince_eq delivers.effects, invoked_flatMap]
  induction delivers with
  | done d => exact .refl _
  | @next d f queue rest e found delivers ih =>
      rw [List.flatMap_cons, List.append_assoc]
      refine (complete_custody f (d := { d with queue }) distinct).trans
        (List.Perm.append_left _ (ih ?_))
      rw [complete_pending]
      exact (List.filter_sublist.map _).nodup distinct

/-- Every callback that is handed in or kept is invoked or kept, except that a call that panics may
lose its own. -/
theorem Course.custody {op : Op σ} {r : Except Panic Response} (course : Course engine op d xs r e)
    (h : d.Orderly) : ∃ lost, lost.Sublist op.callback?.toList ∧
      (∀ v, r = .ok v → lost = []) ∧
      (op.callback?.toList ++ d.awaited).Perm
        (lost ++ (invoked (effectsSince d e) ++ e.awaited)) := by
  have brings {c : Call} (mine : op.call? = some c) : op.callback?.toList = [c.callback] := by
    rw [Op.callback?, mine]
    rfl
  have brought (none : op.call? = Option.none) : op.callback?.toList = [] := by
    rw [Op.callback?, none]
    rfl
  have same {d' e' : Dispatcher σ} (kept : e'.pending = d'.pending) : e'.awaited = d'.awaited := by
    rw [awaited, kept, awaited]
  cases course with
  | @answered c h k mine looked received =>
      refine ⟨[], List.nil_sublist _, fun _ _ => rfl, ?_⟩
      rw [brings mine, effectsSince_eq (Stage.effects_log _ _ d.stage)]
      simp only [invoked, List.filterMap_append, c.inquiries_answer?]
      exact .refl _
  | @posted c sight h mine looked =>
      have grown : ((d.logged (c.inquiries (some sight)) h).posting (c.question sight).job
          (c.entry sight)).stage.effects = d.stage.effects ++ c.inquiries (some sight) :=
        Stage.effects_log _ _ d.stage
      refine ⟨[], List.nil_sublist _, fun _ _ => rfl, ?_⟩
      rw [brings mine, effectsSince_eq grown, awaited_posting, c.own]
      simp only [invoked, c.inquiries_answer?, Option.toList_some]
      exact List.perm_append_comm
  | @failed c p e mine fails =>
      obtain ⟨asked, told, grown, inquiring, once⟩ := fails.journal
      have silent : invoked asked = [] := invoked_eq_nil fun x member => (inquiring x member).1
      rw [brings mine, effectsSince_eq grown, same fails.pending]
      have parts : invoked (asked ++ told) = invoked told := by
        rw [invoked, List.filterMap_append, List.map_append]
        change invoked asked ++ invoked told = invoked told
        rw [silent, List.nil_append]
      rw [parts]
      cases once with
      | cons _ none =>
          cases List.sublist_nil.mp none
          exact ⟨[c.callback], .refl _, by simp, .refl _⟩
      | cons_cons _ none =>
          cases List.sublist_nil.mp none
          exact ⟨[], List.nil_sublist _, by simp, .refl _⟩
  | @checked snapshot url frame document =>
      subst document
      have idle : effectsSince d (d.posting (.allowlist snapshot url) (.document url frame)) = [] :=
        effectsSince_same rfl
      refine ⟨[], List.nil_sublist _, fun _ _ => rfl, ?_⟩
      rw [awaited_posting, idle]
      exact (List.append_nil _).symm ▸ .refl _
  | aside none drains kept =>
      obtain ⟨new, grown, aside⟩ := kept.adds
      refine ⟨[], List.nil_sublist _, fun _ _ => rfl, ?_⟩
      rw [brought none, effectsSince_eq grown, same kept.pending,
        invoked_eq_nil fun x member => (aside x member).1]
      exact .refl _
  | @worked queue none drains accounted ids moved carries =>
      have idle : effectsSince d { d with queue } = [] := effectsSince_same rfl
      refine ⟨[], List.nil_sublist _, fun _ _ => rfl, ?_⟩
      rw [brought none, idle]
      exact .refl _
  | drained none drains delivers =>
      refine ⟨[], List.nil_sublist _, fun _ _ => rfl, ?_⟩
      rw [brought none]
      exact delivers.custody h.distinct

theorem step_ways (engine : Engine) (op : Op σ) (accounted : d.queue.Accounted) :
    Course engine op d (op.deliveries d) (step engine op d).1 (step engine op d).2 ∨
      ∃ f, op = .complete f ∧ (step engine op d).2 = Control.final (complete f) d := by
  cases own : op.injects with
  | false => exact .inl (course engine accounted own)
  | true =>
      cases op with
      | complete f => exact .inr ⟨f, rfl, step_map (f := fun _ => Response.done) rfl d⟩
      | _ => cases own

theorem step_orderly (engine : Engine) (op : Op σ) (h : d.Orderly) :
    (step engine op d).2.Orderly := by
  rcases step_ways engine op h.accounted with course | ⟨f, rfl, led⟩
  · exact course.orderly h
  · rw [led]
    exact h.complete f

theorem step_grown (engine : Engine) (op : Op σ) (accounted : d.queue.Accounted) :
    (step engine op d).2.stage.effects =
      d.stage.effects ++ effectsSince d (step engine op d).2 := by
  rcases step_ways engine op accounted with course | ⟨f, rfl, led⟩
  · exact course.grown
  · obtain ⟨new, grown, -⟩ := complete_summary f d
    rw [led, effectsSince_eq grown, grown]

theorem step_custody (engine : Engine) (op : Op σ) (h : d.Orderly) :
    ∃ lost, lost.Sublist op.callback?.toList ∧ (op.callback?.toList ++ d.awaited).Perm
      (lost ++ (invoked (effectsSince d (step engine op d).2) ++ (step engine op d).2.awaited)) := by
  rcases step_ways engine op h.accounted with course | ⟨f, rfl, led⟩
  · obtain ⟨lost, among, -, moved⟩ := course.custody h
    exact ⟨lost, among, moved⟩
  · refine ⟨[], List.nil_sublist _, ?_⟩
    rw [led]
    exact complete_custody f h.distinct

omit [Host σ] in
theorem new_orderly {n : Nat} {host : σ} (made : Dispatcher.new n host = .ok d) : d.Orderly :=
  (new_inStep ⟨fun _ => .ok .ignored⟩ made).1.orderly

theorem run_orderly (engine : Engine) (ops : List (Op σ)) (h : d.Orderly) :
    (run engine ops d).2.Orderly := by
  induction ops generalizing d with
  | nil => exact h
  | cons op rest ih => exact ih (step_orderly engine op h)

theorem run_grown (engine : Engine) (ops : List (Op σ)) (h : d.Orderly) :
    (run engine ops d).2.stage.effects = d.stage.effects ++ effectsSince d (run engine ops d).2 := by
  have all : ∃ new, (run engine ops d).2.stage.effects = d.stage.effects ++ new := by
    induction ops generalizing d with
    | nil => exact ⟨[], (List.append_nil _).symm⟩
    | cons op rest ih =>
        obtain ⟨later, grown⟩ := ih (step_orderly engine op h)
        rw [run_cons, grown, step_grown engine op h.accounted, List.append_assoc]
        exact ⟨_, rfl⟩
  obtain ⟨new, grown⟩ := all
  rw [effectsSince_eq grown, grown]

omit [Host σ] in
theorem effectsSince_trans {f : Dispatcher σ}
    (first : e.stage.effects = d.stage.effects ++ effectsSince d e)
    (later : f.stage.effects = e.stage.effects ++ effectsSince e f) :
    effectsSince d f = effectsSince d e ++ effectsSince e f := by
  apply effectsSince_eq
  rw [later, first, List.append_assoc]

/-- Every callback that a run is given or finds kept is invoked once or kept still, unless it was lost
with its own call. -/
theorem run_custody (engine : Engine) (ops : List (Op σ)) (h : d.Orderly) :
    ∃ lost, lost.Sublist (ops.filterMap Op.callback?) ∧
      (ops.filterMap Op.callback? ++ d.awaited).Perm
        (lost ++ (invoked (effectsSince d (run engine ops d).2) ++ (run engine ops d).2.awaited)) := by
  induction ops generalizing d with
  | nil =>
      refine ⟨[], List.Sublist.refl _, ?_⟩
      rw [run, effectsSince_same rfl]
      exact .refl _
  | cons op rest ih =>
      obtain ⟨lost, among, moved⟩ := step_custody engine op h
      have next := step_orderly engine op h
      obtain ⟨lost', among', moved'⟩ := ih next
      have parts := effectsSince_trans (step_grown engine op h.accounted)
        (run_grown engine rest next)
      have brought : (op :: rest).filterMap Op.callback? =
          op.callback?.toList ++ rest.filterMap Op.callback? := by
        rw [List.filterMap_cons]
        cases op.callback? <;> rfl
      refine ⟨lost ++ lost', ?_, ?_⟩
      · rw [brought]
        exact among.append among'
      · rw [brought, run_cons, parts, List.perm_iff_count]
        intro call
        have counts := moved.count_eq call
        have counts' := moved'.count_eq call
        simp only [invoked, List.filterMap_append, List.map_append, List.count_append]
          at counts counts' ⊢
        omega

end Dispatcher

end FilterDispatch
