import FilterDispatch.Proofs.Dispatcher.Runs

/-!
Callbacks.  A callback is known to nobody, or one entry is kept for it; taking the outcome of that
entry's job invokes it, and nobody knows it any more.
-/

namespace FilterDispatch

/-- What a callback received, one answer after the other. -/
def answersTo (call : CallId) (effects : List Effect) : List Answer :=
  ((effects.filterMap Effect.answer?).filter (·.1 = call)).map (·.2)

theorem answersTo_append (call : CallId) (first later : List Effect) :
    answersTo call (first ++ later) = answersTo call first ++ answersTo call later := by
  simp [answersTo]

theorem answersTo_flatMap {α : Type} (call : CallId) (f : α → List Effect) (xs : List α) :
    answersTo call (xs.flatMap f) = xs.flatMap fun x => answersTo call (f x) := by
  simp only [answersTo, List.filterMap_flatMap, List.filter_flatMap, List.map_flatMap]

theorem answersTo_eq_nil {call : CallId} {effects : List Effect} :
    answersTo call effects = [] ↔ ∀ x ∈ effects, ∀ a, x.answer? ≠ some (call, a) := by
  simp only [answersTo, List.map_eq_nil_iff, List.filter_eq_nil_iff, List.mem_filterMap]
  constructor
  · intro none x member a told
    exact none (call, a) ⟨x, member, told⟩ (decide_eq_true rfl)
  · rintro silent ⟨other, a⟩ ⟨x, member, told⟩ same
    exact silent x member a (of_decide_eq_true same ▸ told)

theorem answersTo_of_reply {call : CallId} {effects : List Effect} {told : Option (CallId × Answer)}
    (answers : effects.filterMap Effect.answer? = told.toList) :
    answersTo call effects = ((told.filter (·.1 = call)).map (·.2)).toList := by
  rw [answersTo, answers]
  cases told with
  | none => rfl
  | some a => by_cases same : a.1 = call <;> simp [Option.filter, same]

namespace Dispatcher

variable {σ : Type}

/-- No entry is kept for the callback. -/
def Unasked (call : CallId) (d : Dispatcher σ) : Prop :=
  ∀ id entry, (id, entry) ∈ d.pending → entry.callback? ≠ some call

/-- One job on its way will have the callback invoked. -/
structure Awaits (engine : Engine) (call : CallId) (id : JobId) (job : Job) (entry : Pending)
    (d : Dispatcher σ) : Prop where
  held : d.Holds engine id job entry
  own : entry.callback? = some call
  alone : ∀ other kept, (other, kept) ∈ d.pending → kept.callback? = some call → other = id

/-- What happens between two states is not for the callback. -/
structure Elsewhere (engine : Engine) (call : CallId) (d e : Dispatcher σ) : Prop where
  silent : answersTo call (effectsSince d e) = []
  entries : ∃ more, e.pending = d.pending ++ more ∧
    ∀ id entry, (id, entry) ∈ more → entry.callback? ≠ some call
  carries : ∀ id job, d.queue.Carries (Job.run engine) id job →
    e.queue.Carries (Job.run engine) id job

theorem Unasked.elsewhere {engine : Engine} {call : CallId} {d e : Dispatcher σ}
    (unasked : Unasked call d) (beside : Elsewhere engine call d e) : Unasked call e := by
  obtain ⟨more, grown, others⟩ := beside.entries
  intro id entry member
  rw [grown] at member
  rcases List.mem_append.mp member with old | new
  · exact unasked id entry old
  · exact others id entry new

theorem Awaits.elsewhere {engine : Engine} {call : CallId} {id : JobId} {job : Job}
    {entry : Pending} {d e : Dispatcher σ} (awaits : Awaits engine call id job entry d)
    (beside : Elsewhere engine call d e) : Awaits engine call id job entry e := by
  obtain ⟨more, grown, others⟩ := beside.entries
  refine ⟨⟨?_, beside.carries id job awaits.held.carried⟩, awaits.own, ?_⟩
  · rw [grown]
    exact List.mem_append_left _ awaits.held.kept
  · intro other kept member same
    rw [grown] at member
    rcases List.mem_append.mp member with old | new
    · exact awaits.alone other kept old same
    · exact absurd same (others other kept new)

theorem Keeps.elsewhere {engine : Engine} {call : CallId} {P : Effect → Prop}
    {d e : Dispatcher σ} (kept : Keeps P d e)
    (others : ∀ x, P x → ∀ a, x.answer? ≠ some (call, a)) : Elsewhere engine call d e := by
  obtain ⟨new, grown, all⟩ := kept.adds
  refine ⟨?_, ⟨[], by rw [kept.pending, List.append_nil], by simp⟩, ?_⟩
  · rw [effectsSince_eq grown, answersTo_eq_nil]
    exact fun x member => others x (all x member)
  · intro id job carried
    rwa [kept.queue]

theorem posting_elsewhere {engine : Engine} {call : CallId} {job : Job} {entry : Pending}
    {d : Dispatcher σ} {new : List Effect} {k : σ}
    (silent : answersTo call new = []) (other : entry.callback? ≠ some call) :
    Elsewhere engine call d ((d.logged new k).posting job entry) := by
  refine ⟨?_, ⟨[(d.queue.nextId, entry)], rfl, ?_⟩, fun _ _ carried => carried.post job⟩
  · have grown : ((d.logged new k).posting job entry).stage.effects = d.stage.effects ++ new :=
      Stage.effects_log new k d.stage
    rwa [effectsSince_eq grown]
  · intro id kept member
    cases List.mem_singleton.mp member
    exact other

theorem posting_awaits {c : Call} {sight : Sight} {d : Dispatcher σ} {new : List Effect} {k : σ}
    (engine : Engine) (unasked : Unasked c.callback d) :
    Awaits engine c.callback d.queue.nextId (c.question sight).job (c.entry sight)
      ((d.logged new k).posting (c.question sight).job (c.entry sight)) := by
  refine ⟨⟨?_, ?_⟩, c.own sight, ?_⟩
  · exact List.mem_append_right _ (List.mem_singleton_self _)
  · exact WorkQueue.carries_post _ d.queue _
  · intro other kept member same
    rcases List.mem_append.mp member with old | new
    · exact absurd same (unasked other kept old)
    · cases List.mem_singleton.mp new
      rfl

theorem posting_outstanding {job : Job} {d : Dispatcher σ} (accounted : d.queue.Accounted)
    (other : JobId) :
    (other ∉ d.queue.outstanding ∧ other ∈ (d.queue.post job).2.outstanding) ↔
      other = d.queue.nextId := by
  have more := (WorkQueue.outstanding_post d.queue job).mem_iff (a := other)
  constructor
  · rintro ⟨absent, there⟩
    exact (List.mem_cons.mp (more.mp there)).resolve_right absent
  · rintro rfl
    exact ⟨accounted.nextId_fresh, more.mpr List.mem_cons_self⟩

theorem others_of_distinct {earlier later : List (Op σ)} {op : Op σ} {call : CallId}
    (distinct : ((earlier ++ op :: later).filterMap Op.callback?).Nodup)
    (mine : op.callback? = some call) :
    (∀ other ∈ earlier, other.callback? ≠ some call) ∧
      ∀ other ∈ later, other.callback? ≠ some call := by
  rw [List.filterMap_append, List.filterMap_cons_some mine] at distinct
  obtain ⟨-, behind, apart⟩ := List.nodup_append.mp distinct
  constructor
  · intro other member same
    exact apart call (List.mem_filterMap.mpr ⟨other, member, same⟩) call List.mem_cons_self rfl
  · intro other member same
    exact (List.nodup_cons.mp behind).1 (List.mem_filterMap.mpr ⟨other, member, same⟩)

variable [Host σ] {engine : Engine} {call : CallId} {d e : Dispatcher σ}
  {xs : List (Delivery σ)}

theorem Delivers.silent (delivers : Delivers d xs e) (h : d.InStep engine) {x : Delivery σ}
    (member : x ∈ xs)
    (other : ∀ entry, (x.outcome.id, entry) ∈ d.pending → entry.callback? ≠ some call) :
    answersTo call x.effects = [] := by
  obtain ⟨entry, kept, -, answers, -⟩ := delivers.each h x member
  rw [answersTo_of_reply answers]
  have callback := entry.reply?_callback x.outcome.output
  cases told : entry.reply? x.outcome.output with
  | none => rfl
  | some reply =>
      have differs : reply.1 ≠ call := fun same => by
        rw [told, Option.map_some, same] at callback
        exact other entry kept callback.symm
      simp [Option.filter, differs]

theorem Unasked.delivers (unasked : Unasked call d) (h : d.InStep engine)
    (delivers : Delivers d xs e) :
    answersTo call (effectsSince d e) = [] ∧ Unasked call e := by
  constructor
  · rw [effectsSince_eq delivers.effects, answersTo_flatMap, List.flatMap_eq_nil_iff]
    intro x member
    exact delivers.silent h member fun entry kept => unasked _ entry kept
  · intro id entry member
    rw [delivers.pending] at member
    exact unasked id entry (List.mem_filter.mp member).1

variable {id : JobId} {job : Job} {entry : Pending}

theorem Awaits.silent (awaits : Awaits engine call id job entry d) (h : d.InStep engine)
    (delivers : Delivers d xs e) {x : Delivery σ} (member : x ∈ xs) (other : x.outcome.id ≠ id) :
    answersTo call x.effects = [] :=
  delivers.silent h member fun _ kept same => other (awaits.alone _ _ kept same)

theorem Awaits.delivers_others (awaits : Awaits engine call id job entry d) (h : d.InStep engine)
    (delivers : Delivers d xs e) (absent : id ∉ xs.map (·.outcome.id)) :
    answersTo call (effectsSince d e) = [] ∧ Awaits engine call id job entry e := by
  constructor
  · rw [effectsSince_eq delivers.effects, answersTo_flatMap, List.flatMap_eq_nil_iff]
    intro x member
    refine awaits.silent h delivers member fun same => absent ?_
    exact List.mem_map.mpr ⟨x, member, same⟩
  · refine ⟨(delivers.holds h awaits.held).2 absent, awaits.own, ?_⟩
    intro other kept member same
    rw [delivers.pending] at member
    exact awaits.alone other kept (List.mem_filter.mp member).1 same

/-- The delivery of its job invokes the callback, with what the entry makes of the outcome. -/
theorem Awaits.delivers_own (awaits : Awaits engine call id job entry d) (h : d.InStep engine)
    (delivers : Delivers d xs e) (present : id ∈ xs.map (·.outcome.id)) {a : Answer}
    (reply : entry.reply? ((job.run engine).mapError JobError.ofPanic) = some (call, a)) :
    answersTo call (effectsSince d e) = [a] ∧ Unasked call e := by
  constructor
  · obtain ⟨x, member, same⟩ := List.mem_map.mp present
    obtain ⟨earlier, later, rfl⟩ := List.append_of_mem member
    have once := (delivers.distinct h).1
    simp only [List.map_append, List.map_cons, List.nodup_append, List.nodup_cons,
      List.mem_cons] at once
    have before : ∀ y ∈ earlier, answersTo call y.effects = [] := fun y there => by
      apply awaits.silent h delivers (List.mem_append_left _ there)
      intro equal
      exact once.2.2 _ (List.mem_map.mpr ⟨y, there, rfl⟩) _ (.inl rfl) (equal.trans same.symm)
    have after : ∀ y ∈ later, answersTo call y.effects = [] := fun y there => by
      refine awaits.silent h delivers (List.mem_append_right _ (List.mem_cons_of_mem _ there))
        ?_
      intro equal
      exact once.2.1.1 (List.mem_map.mpr ⟨y, there, equal.trans same.symm⟩)
    obtain ⟨outcome, known⟩ := (delivers.holds h awaits.held).1 x member same
    obtain ⟨found, -, looked, answers, -⟩ := delivers.each h x member
    rw [same, known] at looked
    cases looked
    rw [outcome] at answers
    rw [effectsSince_eq delivers.effects, answersTo_flatMap, List.flatMap_append,
      List.flatMap_cons, List.flatMap_eq_nil_iff.mpr before, List.flatMap_eq_nil_iff.mpr after,
      answersTo_of_reply answers, reply]
    simp [Option.filter]
  · intro other kept member same
    rw [delivers.pending] at member
    obtain ⟨there, gone⟩ := List.mem_filter.mp member
    exact of_decide_eq_true gone (awaits.alone other kept there same ▸ present)

theorem Course.elsewhere {op : Op σ} {r : Except Panic Response} (course : Course engine op d xs r e)
    (other : op.callback? ≠ some call) :
    Elsewhere engine call d e ∨ op.drains = true ∧ Delivers d xs e := by
  have differs {c : Call} (mine : op.call? = some c) : c.callback ≠ call := fun same =>
    other (by rw [Op.callback?, mine, Option.map_some, same])
  cases course with
  | @answered c h k mine looked received =>
      refine .inl ⟨?_, ⟨[], (List.append_nil _).symm, by simp⟩, fun _ _ carried => carried⟩
      rw [effectsSince_eq (Stage.effects_log _ _ d.stage), answersTo_append]
      simp [answersTo, c.inquiries_answer?, Effect.answer?, differs mine]
  | @posted c sight h mine looked =>
      refine .inl (posting_elsewhere ?_ fun same => differs mine ?_)
      · simp [answersTo, c.inquiries_answer?]
      · exact Option.some.inj ((c.own sight).symm.trans same)
  | @failed c p e mine fails =>
      exact .inl (fails.keeps.elsewhere fun x asking a told => differs mine (asking.2 _ _ told).symm)
  | checked document =>
      refine .inl ⟨?_, ⟨[(d.queue.nextId, _)], rfl, ?_⟩, fun _ _ carried => carried.post _⟩
      · rw [effectsSince_same] <;> rfl
      · intro id entry member
        cases List.mem_singleton.mp member
        simp [Pending.callback?]
  | aside none drains kept =>
      exact .inl (kept.elsewhere fun x aside a told => by rw [aside.1] at told; cases told)
  | worked none drains accounted ids moved carries =>
      refine .inl ⟨?_, ⟨[], (List.append_nil _).symm, by simp⟩, carries⟩
      rw [effectsSince_same] <;> rfl
  | drained none drains delivers => exact .inr ⟨drains, delivers⟩

variable {ops : List (Op σ)}

theorem Unasked.run (unasked : Unasked call d) (h : d.InStep engine)
    (own : ∀ op ∈ ops, op.injects = false) (others : ∀ op ∈ ops, op.callback? ≠ some call) :
    (∀ t ∈ strides engine ops d, answersTo call t.effects = []) ∧
      Unasked call (run engine ops d).2 := by
  induction ops generalizing d with
  | nil => exact ⟨by simp [strides], unasked⟩
  | cons op rest ih =>
      have here := course engine h.accounted (own op List.mem_cons_self)
      have next : answersTo call (stride engine op d).effects = [] ∧
          Unasked call (step engine op d).2 := by
        rcases here.elsewhere (others op List.mem_cons_self) with beside | ⟨-, delivers⟩
        · exact ⟨beside.silent, unasked.elsewhere beside⟩
        · exact unasked.delivers h delivers
      obtain ⟨silent, last⟩ := ih next.2 (here.inStep h)
        (fun later member => own later (List.mem_cons_of_mem _ member))
        fun later member => others later (List.mem_cons_of_mem _ member)
      refine ⟨?_, last⟩
      intro t member
      rcases List.mem_cons.mp member with rfl | further
      · exact next.1
      · exact silent t further

/-- The job of a callback stays on its way, or one drain takes its outcome and invokes the callback
with what the entry makes of it. -/
theorem Awaits.run (awaits : Awaits engine call id job entry d) (h : d.InStep engine)
    (own : ∀ op ∈ ops, op.injects = false) (others : ∀ op ∈ ops, op.callback? ≠ some call)
    {a : Answer} (reply : entry.reply? ((job.run engine).mapError JobError.ofPanic) = some (call, a)) :
    (id ∈ (run engine ops d).2.queue.outstanding ∧
      ∀ t ∈ strides engine ops d, answersTo call t.effects = [] ∧ ¬ t.Takes id) ∨
    (id ∉ (run engine ops d).2.queue.outstanding ∧
      ∃ first t rest, strides engine ops d = first ++ t :: rest ∧ t.op.drains = true ∧ t.Takes id ∧
        answersTo call t.effects = [a] ∧
        ∀ u ∈ first ++ rest, answersTo call u.effects = [] ∧ ¬ u.Takes id) := by
  induction ops generalizing d with
  | nil => exact .inl ⟨awaits.held.carried.mem_outstanding, by simp [strides]⟩
  | cons op rest ih =>
      have here := course engine h.accounted (own op List.mem_cons_self)
      have further := here.inStep h
      have own' : ∀ later ∈ rest, later.injects = false :=
        fun later member => own later (List.mem_cons_of_mem _ member)
      have others' : ∀ later ∈ rest, later.callback? ≠ some call :=
        fun later member => others later (List.mem_cons_of_mem _ member)
      have next : (answersTo call (stride engine op d).effects = [] ∧
            Awaits engine call id job entry (step engine op d).2) ∨
          (op.drains = true ∧ (stride engine op d).Takes id ∧
            answersTo call (stride engine op d).effects = [a] ∧
            Unasked call (step engine op d).2 ∧ Spent id (step engine op d).2) := by
        rcases here.elsewhere (others op List.mem_cons_self) with beside | ⟨drains, delivers⟩
        · exact .inl ⟨beside.silent, awaits.elsewhere beside⟩
        · by_cases present : id ∈ (op.deliveries d).map (·.outcome.id)
          · obtain ⟨told, unasked⟩ := awaits.delivers_own h delivers present reply
            exact .inr ⟨drains, (here.takes_iff h id).mpr present, told, unasked,
              (here.delivered h present).2⟩
          · exact .inl (awaits.delivers_others h delivers present)
      rcases next with ⟨silent, still⟩ | ⟨drains, takes, told, unasked, spent⟩
      · have here' : ¬ (stride engine op d).Takes id :=
          fun takes => takes.2 still.held.carried.mem_outstanding
        rcases ih still further own' others' with ⟨waits, all⟩ | ⟨gone, first, t, after, split, taken⟩
        · refine .inl ⟨waits, ?_⟩
          intro t member
          rcases List.mem_cons.mp member with rfl | later
          · exact ⟨silent, here'⟩
          · exact all t later
        · refine .inr ⟨gone, stride engine op d :: first, t, after, ?_, taken.1, taken.2.1,
            taken.2.2.1, ?_⟩
          · rw [strides, split, List.cons_append]
          · intro u member
            rcases List.mem_cons.mp member with rfl | later
            · exact ⟨silent, here'⟩
            · exact taken.2.2.2 u later
      · obtain ⟨silent, -⟩ := unasked.run further own' others'
        obtain ⟨last, never⟩ := spent_run further own' spent
        refine .inr ⟨last.2, [], stride engine op d, _, rfl, drains, takes, told, ?_⟩
        exact fun u member => ⟨silent u member, never u member⟩

/-- What becomes of a call with a callback, and all that its callback is told: it is denied, or its
job is on its way, or the job's outcome was taken. -/
inductive Fate (engine : Engine) (c : Call) (s : Stride σ) (after : List (Stride σ))
    (e : Dispatcher σ) : List Answer → Prop
  | denied {h} : c.look s.before.stage.host = .ok none h → (∀ id, ¬ s.Posts id) →
      answersTo c.callback s.effects = [c.denied] →
      (∀ t ∈ after, answersTo c.callback t.effects = []) → Fate engine c s after e [c.denied]
  | waiting {sight h id} : c.look s.before.stage.host = .ok (some sight) h →
      (∀ other, s.Posts other ↔ other = id) → answersTo c.callback s.effects = [] →
      id ∈ e.queue.outstanding →
      (∀ t ∈ after, answersTo c.callback t.effects = [] ∧ ¬ t.Takes id) →
      Fate engine c s after e []
  | decided {sight h id first t rest} : c.look s.before.stage.host = .ok (some sight) h →
      (∀ other, s.Posts other ↔ other = id) → answersTo c.callback s.effects = [] →
      id ∉ e.queue.outstanding → after = first ++ t :: rest → t.op.drains = true → t.Takes id →
      answersTo c.callback t.effects = [(c.question sight).answer engine] →
      (∀ u ∈ first ++ rest, answersTo c.callback u.effects = [] ∧ ¬ u.Takes id) →
      Fate engine c s after e [(c.question sight).answer engine]

omit [Host σ] in
theorem flatMap_silent {ts : List (Stride σ)} (silent : ∀ t ∈ ts, answersTo call t.effects = []) :
    (ts.flatMap fun t => answersTo call t.effects) = [] :=
  List.flatMap_eq_nil_iff.mpr silent

theorem Fate.told {c : Call} {s : Stride σ} {after : List (Stride σ)} {told : List Answer}
    (fate : Fate engine c s after e told) :
    answersTo c.callback s.effects ++ (after.flatMap fun t => answersTo c.callback t.effects) =
      told := by
  cases fate with
  | denied looked none told silent => rw [told, flatMap_silent silent, List.append_nil]
  | waiting looked posts quiet waits silent =>
      rw [quiet, flatMap_silent fun t member => (silent t member).1, List.append_nil]
  | decided looked posts quiet gone among drains takes told silent =>
      rw [quiet, among, List.flatMap_append, List.flatMap_cons, told,
        flatMap_silent fun u member => (silent u (List.mem_append_left _ member)).1,
        flatMap_silent fun u member => (silent u (List.mem_append_right _ member)).1]
      rfl

theorem Course.of_call {op : Op σ} {r : Response} {c : Call}
    (course : Course engine op d xs (.ok r) e) (mine : op.call? = some c) :
    (∃ h k, c.look d.stage.host = .ok none h ∧
      e = d.logged (c.inquiries none ++ [.callback c.callback c.denied]) k) ∨
    ∃ sight h, c.look d.stage.host = .ok (some sight) h ∧
      e = (d.logged (c.inquiries (some sight)) h).posting (c.question sight).job
        (c.entry sight) := by
  cases course with
  | @answered other h k found looked received =>
      cases mine.symm.trans found
      exact .inl ⟨h, k, looked, rfl⟩
  | @posted other sight h found looked =>
      cases mine.symm.trans found
      exact .inr ⟨sight, h, looked, rfl⟩
  | checked document =>
      subst document
      cases mine
  | aside none drains kept =>
      rw [mine] at none
      cases none
  | worked none drains accounted ids moved carries =>
      rw [mine] at none
      cases none
  | drained none drains delivers =>
      rw [mine] at none
      cases none

/-- A call with a callback of its own, which does not panic, between the strides of a run.  The run is
one of a new dispatcher, and no outcome is injected in it. -/
structure Calls (engine : Engine) (ops : List (Op σ)) (d : Dispatcher σ)
    (before : List (Stride σ)) (s : Stride σ) (after : List (Stride σ)) (c : Call) : Prop where
  made : ∃ n host, Dispatcher.new n host = .ok d
  own : ∀ op ∈ ops, op.injects = false
  distinct : (ops.filterMap Op.callback?).Nodup
  split : strides engine ops d = before ++ s :: after
  mine : s.op.call? = some c
  fine : ∃ r, s.response = .ok r

variable {before after : List (Stride σ)} {s : Stride σ} {c : Call}

theorem Calls.journal (h : Calls engine ops d before s after c)
    (earlier : ∀ t ∈ before, answersTo call t.effects = []) :
    answersTo call (run engine ops d).2.stage.effects =
      answersTo call s.effects ++
        after.flatMap fun t => answersTo call t.effects := by
  obtain ⟨n, host, made⟩ := h.made
  obtain ⟨start, -, empty⟩ := new_inStep engine made
  rw [run_effects start h.own, empty, List.nil_append, h.split, answersTo_flatMap,
    List.flatMap_append, List.flatMap_eq_nil_iff.mpr earlier, List.nil_append, List.flatMap_cons]

theorem Calls.fate (h : Calls engine ops d before s after c) :
    (∀ t ∈ before, answersTo c.callback t.effects = []) ∧
      Fate engine c s after (run engine ops d).2
        (answersTo c.callback (run engine ops d).2.stage.effects) := by
  obtain ⟨n, host, made⟩ := h.made
  obtain ⟨r, fine⟩ := h.fine
  obtain ⟨start, empty, -⟩ := new_inStep engine made
  obtain ⟨earlier, later, rfl, rfl, origin, rfl, last, there, here⟩ :=
    stride_of_split start h.own h.split
  have callback : s.op.callback? = some c.callback := by
    rw [Op.callback?, h.mine]
    rfl
  obtain ⟨others, others'⟩ := others_of_distinct h.distinct callback
  have own' : ∀ x ∈ later, x.injects = false := fun x member =>
    h.own x (List.mem_append_right _ (List.mem_cons_of_mem _ member))
  have fresh : Unasked c.callback d := by simp [Unasked, empty]
  obtain ⟨silent, unasked⟩ := fresh.run start
    (fun x member => h.own x (List.mem_append_left _ member)) others
  rw [← origin] at unasked
  refine ⟨silent, ?_⟩
  suffices ways : ∃ told, Fate engine c s (strides engine later s.after)
      (run engine later s.after).2 told by
    obtain ⟨told, fate⟩ := ways
    rwa [h.journal silent, fate.told, last]
  have next := here.inStep there
  rw [fine] at here
  rcases here.of_call h.mine with ⟨_, k, looked, same⟩ | ⟨sight, k, looked, same⟩
  · have grown : s.after.stage.effects =
        s.before.stage.effects ++ (c.inquiries none ++ [.callback c.callback c.denied]) := by
      rw [same]
      exact Stage.effects_log _ _ _
    have quiet : Unasked c.callback s.after := by
      rw [same]
      exact unasked
    refine ⟨_, .denied looked ?_ ?_ (quiet.run next own' others').1⟩
    · rintro id ⟨absent, present⟩
      rw [same] at present
      exact absent present
    · rw [Stride.effects, effectsSince_eq grown, answersTo_append]
      simp [answersTo, c.inquiries_answer?, Effect.answer?]
  · have grown : s.after.stage.effects =
        s.before.stage.effects ++ c.inquiries (some sight) := by
      rw [same]
      exact Stage.effects_log _ _ _
    have posts : ∀ other, s.Posts other ↔ other = s.before.queue.nextId := by
      intro other
      rw [Stride.Posts, same]
      exact posting_outstanding there.accounted other
    have quiet : answersTo c.callback s.effects = [] := by
      rw [Stride.effects, effectsSince_eq grown]
      simp [answersTo, c.inquiries_answer?]
    have awaits : Awaits engine c.callback s.before.queue.nextId (c.question sight).job
        (c.entry sight) s.after := by
      rw [same]
      exact posting_awaits engine unasked
    rcases awaits.run next own' others' (Pending.reply?_own engine (c.fits sight) (c.own sight))
      with ⟨waits, all⟩ | ⟨gone, first, t, rest, among, drains, takes, told, all⟩
    · exact ⟨_, .waiting looked posts quiet waits all⟩
    · exact ⟨_, .decided looked posts quiet gone among drains takes told all⟩

/-- The frame of a call did not resolve when the call was made. -/
def Stride.Unresolved (s : Stride σ) (c : Call) : Prop :=
  ∃ h, Host.resolve c.frame s.before.stage.host = .ok none h

/-- A callback in a run, with the strides around its call and the state where the run leads. -/
structure InvokedOnce (c : Call) (before : List (Stride σ)) (s : Stride σ)
    (after : List (Stride σ)) (e : Dispatcher σ) : Prop where
  atMostOnce : (answersTo c.callback e.stage.effects).length ≤ 1
  invoked_iff : answersTo c.callback e.stage.effects ≠ [] ↔
    s.Unresolved c ∨ ∃ id, s.Posts id ∧ ∃ t ∈ after, t.Takes id
  earlier : ∀ t ∈ before, answersTo c.callback t.effects = []
  atCall : answersTo c.callback s.effects ≠ [] ↔ s.Unresolved c
  later : ∀ t ∈ after, answersTo c.callback t.effects ≠ [] ↔ ∃ id, s.Posts id ∧ t.Takes id
  posts_iff : (∃ id, s.Posts id) ↔ ¬ s.Unresolved c
  drains : ∀ t ∈ after, ∀ id, s.Posts id → t.Takes id → t.op.drains = true
  background : ∀ t ∈ before ++ s :: after, ∀ id, t.op = .finish id →
    answersTo c.callback t.effects = []
  atLast : e.inFlight = 0 → (answersTo c.callback e.stage.effects).length = 1

theorem unresolved_iff {s : Stride σ} {c : Call} :
    s.Unresolved c ↔ ∃ h, c.look s.before.stage.host = .ok none h := by
  simp only [Stride.Unresolved, c.look_eq_none]

theorem resolved_of_look {s : Stride σ} {c : Call} {sight : Sight} {h : σ}
    (looked : c.look s.before.stage.host = .ok (some sight) h) : ¬ s.Unresolved c := by
  rw [unresolved_iff]
  rintro ⟨k, none⟩
  rw [looked] at none
  cases none

theorem callback_invoked_once (h : Calls engine ops d before s after c) :
    InvokedOnce c before s after (run engine ops d).2 := by
  obtain ⟨earlier, fate⟩ := h.fate
  generalize journal : answersTo c.callback (run engine ops d).2.stage.effects = told at fate
  have finishing : ∀ id, s.op ≠ .finish id := fun id same => by
    have mine := h.mine
    rw [same] at mine
    cases mine
  have background (silent : ∀ t ∈ after, t.op.drains = false → answersTo c.callback t.effects = []) :
      ∀ t ∈ before ++ s :: after, ∀ id, t.op = .finish id → answersTo c.callback t.effects = [] := by
    intro t member id same
    rcases List.mem_append.mp member with early | rest
    · exact earlier t early
    · rcases List.mem_cons.mp rest with rfl | late
      · exact absurd same (finishing id)
      · exact silent t late (by rw [same]; rfl)
  cases fate with
  | denied looked none told silent =>
      have gone : s.Unresolved c := unresolved_iff.mpr ⟨_, looked⟩
      refine ⟨by simp [journal], by simp [journal, gone], earlier, by simp [told, gone], ?_, ?_, ?_,
        background fun t member _ => silent t member, fun _ => by simp [journal]⟩
      · intro t member
        simp [silent t member, none]
      · simp [none, gone]
      · exact fun t member id posts => absurd posts (none id)
  | @waiting sight _ id looked posts quiet waits silent =>
      have there : ¬ s.Unresolved c := resolved_of_look looked
      refine ⟨by simp [journal], ?_, earlier, by simp [quiet, there], ?_, ?_, ?_,
        background fun t member _ => (silent t member).1, ?_⟩
      · simp only [journal, there, posts]
        simpa using fun t member => (silent t member).2
      · intro t member
        simp [(silent t member).1, posts, (silent t member).2]
      · simp [posts, there]
      · intro t member other posted takes
        rw [(posts other).mp posted] at takes
        exact absurd takes (silent t member).2
      · intro idle
        obtain ⟨n, host, made⟩ := h.made
        have accounted := (run_inStep (new_inStep engine made).1 h.own).accounted
        rw [accounted.idle_iff.mp idle] at waits
        cases waits
  | @decided sight _ id first t rest looked posts quiet gone among drains takes told silent =>
      have there : ¬ s.Unresolved c := resolved_of_look looked
      have either : ∀ u ∈ after, u = t ∨ u ∈ first ++ rest := fun u member => by
        rw [among] at member
        simpa [or_left_comm] using member
      refine ⟨by simp [journal], ?_, earlier, by simp [quiet, there], ?_, ?_, ?_, ?_,
        fun _ => by simp [journal]⟩
      · simp only [journal, ne_eq, List.cons_ne_nil, not_false_eq_true, true_iff]
        exact .inr ⟨id, (posts id).mpr rfl, t, by simp [among], takes⟩
      · intro u member
        rcases either u member with rfl | other
        · simp [told, posts, takes]
        · simp [(silent u other).1, posts, (silent u other).2]
      · simp [posts, there]
      · intro u member other posted taken
        rw [(posts other).mp posted] at taken
        rcases either u member with rfl | elsewhere
        · exact drains
        · exact absurd taken (silent u elsewhere).2
      · apply background
        intro u member idle
        rcases either u member with rfl | elsewhere
        · rw [drains] at idle
          cases idle
        · exact (silent u elsewhere).1

/-- A rewrite that is posted, evaluated and taken has its callback invoked once. -/
theorem rewrite_invoked_once :
    let live : LiveFrame := ⟨⟨1, 2⟩, ⟨"https://a.example/"⟩⟩
    let start : Dispatcher Register := { queue := { free := 1 }, stage := { host := ⟨[live]⟩ } }
    let ops : List (Op Register) :=
      [.rewrite [] ⟨"https://b.example/"⟩ live.id 7, .start 0, .finish 0, .next]
    (answersTo 7 (run ⟨fun _ => .ok .ignored⟩ ops start).2.stage.effects).length = 1 := by
  intro live start ops
  have calls : Calls ⟨fun _ => .ok .ignored⟩ ops start [] (stride _ _ start) _
      (.rewrite [] ⟨"https://b.example/"⟩ live.id 7) :=
    ⟨⟨1, _, rfl⟩, by decide, by decide, rfl, rfl, _, rfl⟩
  exact (callback_invoked_once calls).atLast rfl

end Dispatcher

end FilterDispatch
