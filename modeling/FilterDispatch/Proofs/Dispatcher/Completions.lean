import FilterDispatch.Proofs.Dispatcher.Blocks
import FilterDispatch.Proofs.Dispatcher.Custody

/-!
Completions.  An outcome may come from the queue or be handed in from outside, under any id and of any
kind.  The first one under the id of a job settles it; whatever comes later, also the outcome of the
job itself, finds nothing kept and is passed over.
-/

namespace FilterDispatch

/-- What a callback is told: an output of the job's own kind is passed on, and any other one decides
nothing. -/
inductive Pending.Tells :
    Pending → Except JobError JobOutput → Option (CallId × Answer) → Prop
  | classified {r c} : Tells (.resource r) (.ok (.classified c)) (some (r.callback, .result c.result))
  | unclassified {r out} : (∀ c, out ≠ .ok (.classified c)) →
      Tells (.resource r) out (some (r.callback, .result .noRule))
  | rewritten {url callback target} :
      Tells (.rewrite url callback) (.ok (.rewritten target)) (some (callback, .rewrite target))
  | unrewritten {url callback out} : (∀ target, out ≠ .ok (.rewritten target)) →
      Tells (.rewrite url callback) out (some (callback, .rewrite none))
  | document {url frame out} : Tells (.document url frame) out none

theorem Pending.tells (entry : Pending) (out : Except JobError JobOutput) :
    entry.Tells out (entry.reply? out) := by
  cases entry with
  | document url frame => exact .document
  | resource r =>
      cases out with
      | error e => exact .unclassified (by simp)
      | ok output =>
          cases output with
          | classified c => exact .classified
          | _ => exact .unclassified (by simp)
  | rewrite url callback =>
      cases out with
      | error e => exact .unrewritten (by simp)
      | ok output =>
          cases output with
          | rewritten target => exact .rewritten
          | _ => exact .unrewritten (by simp)

namespace Dispatcher

variable {σ : Type}

theorem lookup_forgetting (id other : JobId) (d : Dispatcher σ) :
    (d.forgetting id).pending.lookup other = if other = id then none else d.pending.lookup other := by
  by_cases same : other = id
  · rw [if_pos same, List.lookup_eq_none_iff]
    intro e member
    have differs := of_decide_eq_true (List.mem_filter.mp member).2
    exact bne_iff_ne.mpr fun equal => differs (equal.symm.trans same)
  · rw [if_neg same]
    exact lookup_filter_ne same

variable [Host σ]

/-- All that an outcome does to a dispatcher, wherever it comes from. -/
structure Completes (f : Finished JobOutput) (d e : Dispatcher σ) : Prop where
  led : e = Control.final (complete f) d
  unknown : d.pending.lookup f.id = none → complete f d = .ok () d
  kept : ∀ id, e.pending.lookup id = if id = f.id then none else d.pending.lookup id
  removed : (d.pending.map (·.1)).Nodup → ∀ entry, d.pending.lookup f.id = some entry →
    d.pending.Perm ((f.id, entry) :: e.pending)
  queue : e.queue = d.queue
  /-- The callback is told once, and without an output of the job's kind that is all there is. -/
  told : ∀ entry, d.pending.lookup f.id = some entry → ∃ reply, entry.Tells f.output reply ∧
    (effectsSince d e).filterMap Effect.answer? = reply.toList ∧
    ((∀ o, f.output = .ok o → kindOf o ≠ entry.kind) →
      effectsSince d e = reply.toList.map fun told => .callback told.1 told.2)
  document : ∀ url frame, d.pending.lookup f.id = some (.document url frame) →
    (∀ subscription, f.output ≠ .ok (.allowlisted (some subscription))) →
      complete f d = .ok () (d.forgetting f.id)

omit [Host σ] in
theorem report?_foreign {entry : Pending} {out : Except JobError JobOutput}
    (foreign : ∀ o, out = .ok o → kindOf o ≠ entry.kind) : entry.report? out = none := by
  cases reports : entry.report? out with
  | none => rfl
  | some due =>
      rcases report?_cases reports with
        ⟨r, c, subscription, rfl, rfl, -⟩ | ⟨url, subscription, rfl, rfl, -⟩
      · exact absurd rfl (foreign _ rfl)
      · exact absurd rfl (foreign _ rfl)

theorem settle_foreign {entry : Pending} {out : Except JobError JobOutput}
    (unreported : entry.report? out = none) (d : Dispatcher σ) :
    (Control.final (settle entry out) d).stage.effects = d.stage.effects ++ entry.replies out := by
  have ways := settled entry out d
  unfold Control.final
  generalize settle entry out d = outcome at ways ⊢
  cases ways with
  | callbackPanics replied => exact logged_effects _ _ d
  | undecided replied reports => exact logged_effects _ _ d
  | hostPanics replied reports => rw [unreported] at reports; cases reports
  | frameGone replied reports => rw [unreported] at reports; cases reports
  | reported replied reports => rw [unreported] at reports; cases reports
  | observerPanics replied reports => rw [unreported] at reports; cases reports

theorem completes (f : Finished JobOutput) (d : Dispatcher σ) :
    Completes f d (Control.final (complete f) d) := by
  have pending := complete_pending f d
  refine ⟨rfl, complete_of_none, ?kept, ?removed, complete_queue f d, ?told, ?document⟩
  case kept =>
    intro id
    rw [pending]
    exact lookup_forgetting f.id id d
  case removed =>
    intro distinct entry known
    rw [pending]
    exact WorkQueue.perm_cons_without distinct ((lookup_eq_some distinct).mp known)
  case told =>
    intro entry known
    obtain ⟨new, grown, answers, -, -, -⟩ := complete_summary f d
    refine ⟨entry.reply? f.output, entry.tells f.output, ?_, fun foreign => ?_⟩
    · rw [effectsSince_eq grown, answers, known]
      rfl
    · have silent : (Control.final (complete f) d).stage.effects =
          d.stage.effects ++ entry.replies f.output := by
        rw [Control.final_congr (complete_of_some known)]
        exact settle_foreign (report?_foreign foreign) (d.forgetting f.id)
      rw [effectsSince_eq silent, Pending.replies]
      cases entry.reply? f.output with
      | none => rfl
      | some told => rfl
  case document =>
    intro url frame known unlisted
    have unreported : (Pending.document url frame).report? f.output = none := by
      cases reports : (Pending.document url frame).report? f.output with
      | none => rfl
      | some due =>
          rcases report?_cases reports with
            ⟨r, c, subscription, own, -⟩ | ⟨page, subscription, -, listed, -⟩
          · cases own
          · exact absurd listed (unlisted subscription)
    rw [complete_of_some known]
    exact settle_unreported (h := d.stage.host) rfl unreported

/-- Entries are added only, under ids that are new. -/
structure Grows (d e : Dispatcher σ) : Prop where
  ids : d.queue.nextId ≤ e.queue.nextId
  kept : ∀ id < d.queue.nextId, e.pending.lookup id = d.pending.lookup id

omit [Host σ] in
theorem Grows.of_same {d e : Dispatcher σ} (ids : e.queue.nextId = d.queue.nextId)
    (pending : e.pending = d.pending) : Grows d e :=
  ⟨Nat.le_of_eq ids.symm, fun _ _ => by rw [pending]⟩

omit [Host σ] in
theorem Grows.trans {d b e : Dispatcher σ} (first : Grows d b) (later : Grows b e) : Grows d e :=
  ⟨Nat.le_trans first.ids later.ids, fun id early =>
    (later.kept id (Nat.lt_of_lt_of_le early first.ids)).trans (first.kept id early)⟩

omit [Host σ] in
theorem grows_posting (job : Job) (entry : Pending) (new : List Effect) (h : σ)
    (d : Dispatcher σ) : Grows d ((d.logged new h).posting job entry) := by
  refine ⟨Nat.le_succ _, fun id early => ?_⟩
  have other : (id == d.queue.nextId) = false := by simpa using Nat.ne_of_lt early
  change (d.pending ++ [(d.queue.nextId, entry)]).lookup id = _
  rw [List.lookup_append, List.lookup_cons, other]
  exact Option.or_none

/-- One completion after the other, with nothing but new entries between them. -/
inductive Chain : Dispatcher σ → List (Delivery σ) → Dispatcher σ → Prop
  | done {d e} : Grows d e → Chain d [] e
  | next {d b f xs e} : Grows d b → Chain (Control.final (complete f) b) xs e →
      Chain d (⟨f, b, Control.final (complete f) b⟩ :: xs) e

namespace Chain

variable {d b e : Dispatcher σ} {xs ys : List (Delivery σ)} {x : Delivery σ}

theorem after (chain : Chain b xs e) (grows : Grows d b) : Chain d xs e := by
  cases chain with
  | done further => exact .done (grows.trans further)
  | next further rest => exact .next (grows.trans further) rest

theorem append (first : Chain d xs b) (later : Chain b ys e) : Chain d (xs ++ ys) e := by
  induction first with
  | done grows => exact later.after grows
  | next grows rest ih => exact .next grows (ih later)

theorem split (chain : Chain d (xs ++ x :: ys) e) :
    Chain d xs x.before ∧ x.after = Control.final (complete x.outcome) x.before := by
  induction xs generalizing d with
  | nil =>
      cases chain with
      | next grows rest => exact ⟨.done grows, rfl⟩
  | cons y xs ih =>
      cases chain with
      | next grows rest =>
          obtain ⟨first, led⟩ := ih rest
          exact ⟨.next grows first, led⟩

/-- What was kept is kept until an outcome comes under its id, and then it is gone for good. -/
theorem lookup (chain : Chain d xs e) {id : JobId} (early : id < d.queue.nextId) :
    e.pending.lookup id =
      if id ∈ xs.map (·.outcome.id) then none else d.pending.lookup id := by
  induction chain with
  | done grows => simpa using grows.kept id early
  | @next d b f xs e grows rest ih =>
      have still := Nat.lt_of_lt_of_le early grows.ids
      rw [ih (by rwa [complete_queue]), (completes f b).kept id, grows.kept id early]
      by_cases own : id = f.id
      · simp [own]
      · simp [own]

theorem of_delivers (delivers : Delivers d xs e) : Chain d xs e := by
  induction delivers with
  | done d => exact .done (.of_same rfl rfl)
  | next found rest ih =>
      obtain ⟨-, shape⟩ := WorkQueue.tryNext_eq_some.mp found
      refine .next (.of_same ?_ rfl) ih
      rw [shape]

end Chain

variable {engine : Engine} {op : Op σ} {d e : Dispatcher σ} {xs : List (Delivery σ)}
  {r : Except Panic Response} {ops : List (Op σ)} {id : JobId}

theorem Course.chain (course : Course engine op d xs r e) : Chain d xs e := by
  have same {P : Effect → Prop} {e : Dispatcher σ} (keeps : Keeps P d e) : Chain d [] e :=
    .done (.of_same (congrArg WorkQueue.nextId keeps.queue) keeps.pending)
  cases course with
  | answered mine looked received => exact .done (.of_same rfl rfl)
  | posted mine looked => exact .done (grows_posting _ _ _ _ d)
  | failed mine fails => exact same fails.keeps
  | checked document => exact .done (grows_posting _ _ [] d.stage.host d)
  | aside none drains keeps => exact same keeps
  | worked none drains accounted ids moved carries => exact .done (.of_same ids rfl)
  | drained none drains delivers => exact .of_delivers delivers

/-- The outcomes that an operation completes, with those that it hands in. -/
def Stride.completions (s : Stride σ) : List (Delivery σ) :=
  match s.op with
  | .complete f => [⟨f, s.before, s.after⟩]
  | _ => s.deliveries

theorem Stride.completions_of_own {s : Stride σ} (own : s.op.injects = false) :
    s.completions = s.deliveries := by
  unfold completions
  split
  · next same => rw [same] at own; cases own
  · rfl

theorem step_complete (engine : Engine) (f : Finished JobOutput) (d : Dispatcher σ) :
    (step engine (.complete f) d).2 = Control.final (complete f) d :=
  step_map (f := fun _ => Response.done) rfl d

theorem step_chain (engine : Engine) (op : Op σ) (accounted : d.queue.Accounted) :
    Chain d (stride engine op d).completions (step engine op d).2 := by
  cases own : op.injects with
  | false =>
      rw [Stride.completions_of_own own]
      exact (course engine accounted own).chain
  | true =>
      cases op with
      | complete f =>
          change Chain d [⟨f, d, (step engine (.complete f) d).2⟩] _
          rw [step_complete]
          exact .next (.of_same rfl rfl) (.done (.of_same rfl rfl))
      | _ => cases own

theorem run_chain (engine : Engine) (ops : List (Op σ)) (h : d.Orderly) :
    Chain d ((strides engine ops d).flatMap Stride.completions) (run engine ops d).2 := by
  induction ops generalizing d with
  | nil => exact .done (.of_same rfl rfl)
  | cons op rest ih =>
      rw [strides, List.flatMap_cons]
      exact (step_chain engine op h.accounted).append (ih (step_orderly engine op h))

/-- A completion that is passed over. -/
structure Delivery.Idle (x : Delivery σ) : Prop where
  passed : complete x.outcome x.before = .ok () x.before
  same : x.after = x.before

theorem idle_of_unknown {x : Delivery σ}
    (led : x.after = Control.final (complete x.outcome) x.before)
    (unknown : x.before.pending.lookup x.outcome.id = none) : x.Idle := by
  have passed := (completes x.outcome x.before).unknown unknown
  exact ⟨passed, led.trans (Control.final_ok passed)⟩

/-- What is in flight grows by a job that is posted and shrinks by the outcomes that are taken. -/
inductive Flights (d : Dispatcher σ) : List (Delivery σ) → Dispatcher σ → Prop
  | posted {e : Dispatcher σ} : (∃ id, ∀ other,
      other ∉ d.queue.outstanding ∧ other ∈ e.queue.outstanding ↔ other = id) →
      e.inFlight = d.inFlight + 1 → Flights d [] e
  | taken {e : Dispatcher σ} {xs : List (Delivery σ)} {left : List (Finished JobOutput)} :
      (∀ id ∈ e.queue.outstanding, id ∈ d.queue.outstanding) →
      d.queue.finished = xs.map (·.outcome) ++ left → d.inFlight = xs.length + e.inFlight →
      Flights d xs e

/-- Every completion of a run, and every change of what is in flight. -/
structure FirstWins (engine : Engine) (track : List (Stride σ)) : Prop where
  each : ∀ t ∈ track, ∀ x ∈ t.completions, Completes x.outcome x.before x.after
  /-- The first completion under the id of a job finds what was kept with it, and later ones nothing. -/
  settled : ∀ before s after id, track = before ++ s :: after → s.Posts id →
    ∃ job entry, Source s.op s.before job entry ∧
      ∀ xs x ys, after.flatMap Stride.completions = xs ++ x :: ys → x.outcome.id = id →
        (id ∉ xs.map (·.outcome.id) → x.before.pending.lookup id = some entry) ∧
        (id ∈ xs.map (·.outcome.id) → x.Idle)
  unposted : ∀ before t after, track = before ++ t :: after → ∀ x ∈ t.completions,
    (∀ s ∈ before, ¬ s.Posts x.outcome.id) → x.Idle
  handed : ∀ t ∈ track, ∀ f, t.op = .complete f → t.after.queue = t.before.queue
  inFlight : ∀ t ∈ track, Flights t.before t.deliveries t.after

omit [Host σ] in
theorem flights_still (moved : d.queue.outstanding.Perm e.queue.outstanding)
    (counted : d.inFlight = e.inFlight) : Flights d [] e :=
  .taken (fun _ there => moved.mem_iff.mpr there) rfl (by simpa using counted)

omit [Host σ] in
theorem flights_queue (queue : e.queue = d.queue) : Flights d [] e :=
  flights_still (by rw [queue]) (congrArg WorkQueue.inFlight queue.symm)

theorem Course.flights (course : Course engine op d xs r e) (accounted : d.queue.Accounted) :
    Flights d xs e := by
  cases course with
  | answered mine looked received => exact flights_queue rfl
  | posted mine looked => exact .posted ⟨_, posting_outstanding accounted⟩ rfl
  | failed mine fails => exact flights_queue fails.keeps.queue
  | checked document => exact .posted ⟨_, posting_outstanding accounted⟩ rfl
  | aside none drains keeps => exact flights_queue keeps.queue
  | worked none drains accounted' ids moved carries =>
      apply flights_still moved
      rw [inFlight, accounted.counted, moved.length_eq, inFlight, accounted'.counted]
  | drained none drains delivers =>
      refine .taken (fun id there => ?_) delivers.queue.1 (delivers.counted accounted).1
      exact delivers.outstanding.1.mem_iff.mpr (List.mem_append_right _ there)

theorem step_flights (engine : Engine) (op : Op σ) (accounted : d.queue.Accounted) :
    Flights d (op.deliveries d) (step engine op d).2 := by
  rcases step_ways engine op accounted with course | ⟨f, rfl, led⟩
  · exact course.flights accounted
  · exact flights_queue (by rw [led, complete_queue])

theorem Delivers.kept (delivers : Delivers d xs e) :
    ∀ x ∈ xs, x.before.pending.Sublist d.pending := by
  induction delivers with
  | done d => simp
  | @next d f queue rest e found delivers ih =>
      intro x member
      rcases List.mem_cons.mp member with rfl | later
      · exact .refl _
      · have less := ih x later
        rw [complete_pending] at less
        exact less.trans List.filter_sublist

theorem Course.kept (course : Course engine op d xs r e) :
    ∀ x ∈ xs, x.before.pending.Sublist d.pending := by
  cases course with
  | drained none drains delivers => exact delivers.kept
  | _ => simp

theorem completions_kept (engine : Engine) (op : Op σ) (accounted : d.queue.Accounted) :
    ∀ x ∈ (stride engine op d).completions, x.before.pending.Sublist d.pending := by
  cases own : op.injects with
  | false =>
      rw [Stride.completions_of_own own]
      exact (course engine accounted own).kept
  | true =>
      cases op with
      | complete f =>
          intro x member
          cases List.mem_singleton.mp member
          exact .refl _
      | _ => cases own

theorem stride_source (h : d.Orderly) (posts : (stride engine op d).Posts id) :
    ∃ job entry, Source op d job entry ∧
      (step engine op d).2.pending.lookup id = some entry := by
  rcases step_ways engine op h.accounted with course | ⟨f, rfl, led⟩
  · obtain ⟨job, entry, source, held⟩ := course.source h.accounted posts.1 posts.2
    exact ⟨job, entry, source, (lookup_eq_some (course.orderly h).distinct).mpr held.kept⟩
  · have there : id ∈ (step engine (.complete f) d).2.queue.outstanding := posts.2
    rw [led, complete_queue] at there
    exact absurd there posts.1

theorem stride_of_orderly {before after : List (Stride σ)} {t : Stride σ} (h : d.Orderly)
    (split : strides engine ops d = before ++ t :: after) :
    ∃ earlier later, before = strides engine earlier d ∧ t.before = (run engine earlier d).2 ∧
      t = stride engine t.op t.before ∧ after = strides engine later t.after ∧
      t.before.Orderly ∧ t.after.Orderly := by
  obtain ⟨earlier, op, later, -, rfl, rfl, rfl, -⟩ := strides_split split
  have there := run_orderly engine earlier h
  exact ⟨earlier, later, rfl, rfl, rfl, rfl, there, step_orderly engine op there⟩

theorem stride_of_member {t : Stride σ} (h : d.Orderly) (member : t ∈ strides engine ops d) :
    t = stride engine t.op t.before ∧ t.before.Orderly := by
  obtain ⟨before, after, split⟩ := List.append_of_mem member
  obtain ⟨-, -, -, -, same, -, there, -⟩ := stride_of_orderly h split
  exact ⟨same, there⟩

theorem stride_led (accounted : d.queue.Accounted) :
    ∀ x ∈ (stride engine op d).completions,
      x.after = Control.final (complete x.outcome) x.before := by
  intro x member
  obtain ⟨xs, ys, split⟩ := List.append_of_mem member
  have chain := step_chain engine op accounted
  rw [split] at chain
  exact chain.split.2

/-- After the stride that posts a job, its entry waits for the first completion under its id. -/
theorem Stride.Posts.settled {before after : List (Stride σ)} {s : Stride σ} (h : d.Orderly)
    (split : strides engine ops d = before ++ s :: after) (posts : s.Posts id) :
    ∃ job entry, Source s.op s.before job entry ∧
      ∀ xs x ys, after.flatMap Stride.completions = xs ++ x :: ys → x.outcome.id = id →
        (id ∉ xs.map (·.outcome.id) → x.before.pending.lookup id = some entry) ∧
        (id ∈ xs.map (·.outcome.id) → x.Idle) := by
  obtain ⟨earlier, later, -, -, same, rfl, there, further⟩ := stride_of_orderly h split
  rw [same] at posts
  obtain ⟨job, entry, source, known⟩ := stride_source there posts
  have after : s.after = (step engine s.op s.before).2 := congrArg Stride.after same
  rw [← after] at known
  have early : id < s.after.queue.nextId := further.accounted.posted id (after ▸ posts.2)
  refine ⟨job, entry, source, fun xs x ys completed own => ?_⟩
  have chain := run_chain engine later further
  rw [completed] at chain
  obtain ⟨first, led⟩ := chain.split
  have lookup := first.lookup early
  constructor
  · intro fresh
    rw [lookup, if_neg fresh, known]
  · intro settled
    rw [if_pos settled, ← own] at lookup
    exact idle_of_unknown led lookup

theorem idle_of_unposted {before after : List (Stride σ)} {t : Stride σ} {x : Delivery σ}
    (h : d.Orderly) (nothing : d.queue.outstanding = [])
    (split : strides engine ops d = before ++ t :: after) (completed : x ∈ t.completions)
    (unposted : ∀ s ∈ before, ¬ s.Posts x.outcome.id) : x.Idle := by
  obtain ⟨earlier, later, rfl, origin, same, -, there, -⟩ := stride_of_orderly h split
  rw [same] at completed
  apply idle_of_unknown (stride_led there.accounted x completed)
  rw [List.lookup_eq_none_iff]
  intro e member
  refine bne_iff_ne.mpr fun own => ?_
  have kept := (completions_kept engine t.op there.accounted x completed).subset member
  have among := there.among e.1 (List.mem_map.mpr ⟨e, kept, rfl⟩)
  rw [origin, ← own] at among
  rcases run_posted among with old | ⟨s, early, posts⟩
  · rw [nothing] at old
    cases old
  · exact unposted s early posts

theorem first_completion_wins {n : Nat} {host : σ} (made : Dispatcher.new n host = .ok d)
    (engine : Engine) (ops : List (Op σ)) :
    (∀ f (e : Dispatcher σ), Completes f e (Control.final (complete f) e)) ∧
      FirstWins engine (strides engine ops d) := by
  have start := new_orderly made
  have nothing : d.queue.outstanding = [] := by
    obtain ⟨inStep, empty, -⟩ := new_inStep engine made
    have keys := inStep.keys
    rw [empty] at keys
    exact keys.symm.eq_nil
  refine ⟨completes, ?each, fun _ _ _ _ split posts => posts.settled start split,
    fun _ _ _ split _ completed unposted => idle_of_unposted start nothing split completed unposted,
    ?handed, ?inFlight⟩
  case each =>
    intro t member x completed
    obtain ⟨same, there⟩ := stride_of_member start member
    rw [same] at completed
    rw [stride_led there.accounted x completed]
    exact completes x.outcome x.before
  case handed =>
    intro t member f handed
    obtain ⟨same, -⟩ := stride_of_member start member
    have after : t.after = (step engine t.op t.before).2 := congrArg Stride.after same
    rw [after, handed, step_complete, complete_queue]
  case inFlight =>
    intro t member
    obtain ⟨same, there⟩ := stride_of_member start member
    rw [same]
    exact step_flights engine t.op there.accounted

/-- A blocked response whose job is settled from outside by an output of the wrong kind; the two later
outcomes under its id, of which the second is its own, come to nothing. -/
theorem mismatched_response_settled :
    let url : Url := ⟨"https://b.example/x.png"⟩
    let live : LiveFrame := ⟨⟨1, 2⟩, ⟨"https://a.example/"⟩⟩
    let blocked : Classification := .blocked ⟨"https://list.example/"⟩
    let engine : Engine := ⟨fun _ => .ok blocked⟩
    let start : Dispatcher Register := { queue := { free := 1 }, stage := { host := ⟨[live]⟩ } }
    let ops : List (Op Register) :=
      [.complete ⟨0, .ok (.classified blocked)⟩, .response [] url .image live.id {} 7, .start 0,
        .complete ⟨0, .ok (.rewritten none)⟩, .complete ⟨0, .ok (.classified blocked)⟩, .finish 0,
        .next]
    let track := strides engine ops start
    FirstWins engine track ∧
      ((track.flatMap Stride.completions).map fun x => x.effects.filterMap Effect.answer?) =
        [[], [(7, .result .noRule)], [], []] ∧
      track.map (·.after.inFlight) = [0, 1, 1, 1, 1, 1, 0] := by
  intro url live blocked engine start ops track
  exact ⟨(first_completion_wins (n := 1) rfl engine ops).2, by decide +kernel, by decide +kernel⟩

end Dispatcher

end FilterDispatch
