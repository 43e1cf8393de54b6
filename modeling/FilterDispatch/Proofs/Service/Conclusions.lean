import FilterDispatch.Proofs.Service.Barrier

/-!
Conclusions.  A popup is ruled on when its command is handled; any other call is concluded when the
loop takes the outcome of the job that was posted for it.  Either happens in one move, and no call is
concluded twice.
-/

namespace FilterDispatch.Service

variable {σ : Type}

/-- What a move makes the dispatcher do. -/
def Move.op? (m : Move σ) (s : Service σ) : Option (Dispatcher.Op (Desk σ)) :=
  match m with
  | .takeCommand => s.channel.head?.bind Sent.op?
  | .takeOutcome => some .next
  | .start id => some (.start id)
  | .finish id => some (.finish id)
  | _ => none

theorem Move.op?_cases {m : Move σ} {s : Service σ} {op : Dispatcher.Op (Desk σ)}
    (own : m.op? s = some op) :
    (∃ call snapshot url frame, takes? m s = some ⟨call, .popup snapshot url frame⟩ ∧
        op = .popup snapshot url frame) ∨
      m = .takeOutcome ∧ op = .next ∨
      op.injects = false ∧ op.drains = false ∧
        ∀ snapshot url frame, op ≠ .popup snapshot url frame := by
  cases m with
  | takeCommand =>
      obtain ⟨⟨call, command⟩, there, own⟩ := Option.bind_eq_some_iff.mp own
      cases command with
      | popup snapshot url frame =>
          cases own
          exact .inl ⟨call, snapshot, url, frame, there, rfl⟩
      | _ => cases own <;> exact .inr (.inr ⟨rfl, rfl, fun _ _ _ => nofun⟩)
  | takeOutcome =>
      cases own
      exact .inr (.inl ⟨rfl, rfl⟩)
  | start id =>
      cases own
      exact .inr (.inr ⟨rfl, rfl, fun _ _ _ => nofun⟩)
  | finish id =>
      cases own
      exact .inr (.inr ⟨rfl, rfl, fun _ _ _ => nofun⟩)
  | _ => cases own

theorem Move.op?_own {m : Move σ} {s : Service σ} {op : Dispatcher.Op (Desk σ)}
    (own : m.op? s = some op) : op.injects = false := by
  rcases op?_cases own with ⟨_, _, _, _, -, rfl⟩ | ⟨-, rfl⟩ | ⟨stays, -⟩
  · rfl
  · rfl
  · exact stays

theorem Move.op?_posts {m : Move σ} {s : Service σ} {op : Dispatcher.Op (Desk σ)}
    (own : m.op? s = some op) (posts : op.posts = true) :
    ∃ x, takes? m s = some x ∧ x.command.returns = false := by
  cases m with
  | takeCommand =>
      obtain ⟨⟨call, command⟩, there, own⟩ := Option.bind_eq_some_iff.mp own
      refine ⟨⟨call, command⟩, there, ?_⟩
      cases command with
      | popup snapshot url frame => cases own; cases posts
      | _ => rfl
  | takeOutcome => cases own; cases posts
  | start id => cases own; cases posts
  | finish id => cases own; cases posts
  | _ => cases own

variable [Host σ] {engine : Engine} {m : Move σ} {ms : List (Move σ)} {s₀ s t u v : Service σ}
  {x y : Sent} {id : JobId}

/-- The dispatcher after its part in a move. -/
def Move.act (engine : Engine) (m : Move σ) (s : Service σ) : Dispatcher (Desk σ) :=
  match m.op? s with
  | some op => (Dispatcher.step engine op s.dispatcher).2
  | none => s.dispatcher

/-- Whatever else a move does, it does at the desk; the host is only changed by who may do so. -/
theorem Step.act_desk (step : Step engine s m t) :
    ∃ change, ((∀ f, m ≠ .changeHost f) → ∀ d, (change d).host = d.host) ∧
      t.dispatcher = (m.act engine s).changeHost change := by
  have still {u : Service σ} (same : u.dispatcher = s.dispatcher) :
      ∃ change, ((∀ f, m ≠ .changeHost f) → ∀ d, (change d).host = d.host) ∧
        u.dispatcher = s.dispatcher.changeHost change := ⟨id, fun _ _ => rfl, same⟩
  cases step with
  | send fresh some =>
      apply still
      rw [Service.send]
      split <;> rfl
  | @enqueue y rest running arriving room =>
      rw [enter]
      split
      · exact ⟨id, fun _ _ => rfl, rfl⟩
      · exact ⟨Desk.put y.call .done, fun _ _ => rfl, rfl⟩
  | @takeCommand y rest running channel =>
      obtain ⟨flushed, keeps, answered⟩ :=
        answerFlushes_desk (({ s with channel := rest }).handle y)
      rw [answered]
      have head : (Move.takeCommand : Move σ).op? s = y.op? := by
        rw [Move.op?, channel]
        rfl
      rw [Move.act, head]
      cases own : (y.op? : Option (Dispatcher.Op (Desk σ))) with
      | some op =>
          obtain ⟨change, keeps', handled⟩ := handle_operate engine own { s with channel := rest }
          rw [handled, operate_eq]
          exact ⟨flushed ∘ change, fun _ d => (keeps (change d)).trans (keeps' d), rfl⟩
      | none =>
          obtain ⟨call, command⟩ := y
          cases command with
          | flush => exact ⟨flushed, fun _ => keeps, rfl⟩
          | shutdown => exact ⟨flushed, fun _ => keeps, rfl⟩
          | _ => cases own
  | takeOutcome running there =>
      obtain ⟨flushed, keeps, answered⟩ := answerFlushes_desk (s.operate engine .next)
      rw [answered, operate_eq]
      exact ⟨flushed, fun _ => keeps, rfl⟩
  | start =>
      rw [operate_eq]
      exact ⟨id, fun _ _ => rfl, rfl⟩
  | finish =>
      rw [operate_eq]
      exact ⟨id, fun _ _ => rfl, rfl⟩
  | @changeHost change =>
      exact ⟨fun d => { d with host := change d.host }, fun other => absurd rfl (other change), rfl⟩
  | _ => exact ⟨id, fun _ _ => rfl, rfl⟩

theorem Step.act (step : Step engine s m t) :
    ∃ change, t.dispatcher = (m.act engine s).changeHost change := by
  obtain ⟨change, -, same⟩ := step.act_desk
  exact ⟨change, same⟩

theorem Step.queue (step : Step engine s m t) :
    t.dispatcher.queue = (m.act engine s).queue := by
  obtain ⟨change, same⟩ := step.act
  rw [same]
  rfl

theorem Step.nextId_le (step : Step engine s m t) (h : s.dispatcher.InStep engine) :
    s.dispatcher.queue.nextId ≤ t.dispatcher.queue.nextId := by
  rw [step.queue, Move.act]
  cases own : m.op? s with
  | none => exact Nat.le_refl _
  | some op => exact (Dispatcher.course engine h.accounted (Move.op?_own own)).nextId_le

theorem Step.posts (step : Step engine s m t) (h : s.dispatcher.InStep engine)
    (fresh : id ∉ s.dispatcher.queue.outstanding) (there : id ∈ t.dispatcher.queue.outstanding) :
    id = s.dispatcher.queue.nextId ∧ ∃ x, takes? m s = some x ∧ x.command.returns = false := by
  rw [step.queue, Move.act] at there
  cases own : m.op? s with
  | none =>
      rw [own] at there
      exact absurd there fresh
  | some op =>
      rw [own] at there
      obtain ⟨same, posts⟩ :=
        (Dispatcher.course engine h.accounted (Move.op?_own own)).posts fresh there
      exact ⟨same, Move.op?_posts own posts⟩

theorem Step.spent (step : Step engine s m t) (h : s.dispatcher.InStep engine)
    (spent : Dispatcher.Spent id s.dispatcher) : Dispatcher.Spent id t.dispatcher :=
  ⟨Nat.lt_of_lt_of_le spent.1 (step.nextId_le h),
    fun there => Nat.ne_of_lt spent.1 (step.posts h spent.2 there).1⟩

theorem Step.takes (step : Step engine s .takeOutcome t) (h : s.dispatcher.InStep engine)
    {f : Finished JobOutput} {rest : List (Finished JobOutput)}
    (finished : s.dispatcher.queue.finished = f :: rest) : Dispatcher.Spent f.id t.dispatcher := by
  obtain ⟨queue, found⟩ : ∃ queue, s.dispatcher.queue.tryNext = some (f, queue) := by
    rw [WorkQueue.tryNext, finished]
    exact ⟨_, rfl⟩
  have there : f.id ∈ s.dispatcher.queue.outstanding :=
    (WorkQueue.outstanding_tryNext found).mem_iff.mpr List.mem_cons_self
  refine ⟨Nat.lt_of_lt_of_le (h.accounted.posted f.id there) (step.nextId_le h), ?_⟩
  have left : t.dispatcher.queue = queue := by
    rw [step.queue]
    change (Dispatcher.step engine .next s.dispatcher).2.queue = queue
    rw [Dispatcher.step_next engine h.accounted found, Dispatcher.complete_queue]
  rw [left]
  exact (h.accounted.tryNext found).2

/-- After these moves the run makes this one, from the one state to the other. -/
structure Makes (engine : Engine) (s₀ : Service σ) (ms first : List (Move σ)) (m : Move σ)
    (u v : Service σ) : Prop where
  split : ∃ rest, ms = first ++ m :: rest
  ran : run? engine first s₀ = some u
  leads : u.step? engine m = some v

namespace Makes

variable {first : List (Move σ)}

theorem append (makes : Makes engine s₀ ms first m u v) (more : List (Move σ)) :
    Makes engine s₀ (ms ++ more) first m u v := by
  obtain ⟨rest, rfl⟩ := makes.split
  exact ⟨⟨rest ++ more, by simp⟩, makes.ran, makes.leads⟩

theorem cases_snoc {last : Move σ} (makes : Makes engine s₀ (ms ++ [last]) first m u v) :
    Makes engine s₀ ms first m u v ∨ first = ms ∧ m = last := by
  obtain ⟨rest, split⟩ := makes.split
  rcases List.eq_nil_or_concat rest with rfl | ⟨rest, z, rfl⟩
  · obtain ⟨rfl, same⟩ := List.append_inj' split rfl
    cases same
    exact .inr ⟨rfl, rfl⟩
  · rw [List.concat_eq_append, ← List.cons_append, ← List.append_assoc] at split
    obtain ⟨rfl, -⟩ := List.append_inj' split rfl
    exact .inl ⟨⟨rest, rfl⟩, makes.ran, makes.leads⟩

theorem taken (makes : Makes engine s₀ ms first m u v) (takes : takes? m u = some x) :
    x ∈ taken engine ms s₀ := by
  obtain ⟨rest, rfl⟩ := makes.split
  rw [Service.taken, moved_append takes? makes.ran, moved, takes]
  exact List.mem_append_right _ (List.mem_append_left _ List.mem_cons_self)

end Makes

theorem makes_last (ran : run? engine ms s₀ = some s) (moved : s.step? engine m = some t) :
    Makes engine s₀ (ms ++ [m]) ms m s t :=
  ⟨⟨[], rfl⟩, ran, moved⟩

/-- The handling of this command posted this job. -/
def PostedBy (engine : Engine) (s₀ : Service σ) (ms : List (Move σ)) (x : Sent) (id : JobId) :
    Prop :=
  ∃ first m u v, Makes engine s₀ ms first m u v ∧ takes? m u = some x ∧
    id ∉ u.dispatcher.queue.outstanding ∧ id ∈ v.dispatcher.queue.outstanding

/-- After these moves of a run, the next one delivers the outcome of the call. -/
inductive Concludes (engine : Engine) (s₀ : Service σ) (ms : List (Move σ)) (s : Service σ)
    (x : Sent) : Move σ → Prop
  | inline {m : Move σ} : takes? m s = some x → x.command.returns = true →
      Concludes engine s₀ ms s x m
  | outcome {f : Finished JobOutput} {rest} : s.dispatcher.queue.finished = f :: rest →
      PostedBy engine s₀ ms x f.id → Concludes engine s₀ ms s x .takeOutcome

/-- The outcome of the call has been delivered. -/
def Concluded (engine : Engine) (s₀ : Service σ) (ms : List (Move σ)) (x : Sent) : Prop :=
  ∃ first m u v, Makes engine s₀ ms first m u v ∧ Concludes engine s₀ first u x m

namespace PostedBy

theorem append (posted : PostedBy engine s₀ ms x id) (more : List (Move σ)) :
    PostedBy engine s₀ (ms ++ more) x id := by
  obtain ⟨first, m, u, v, makes, rest⟩ := posted
  exact ⟨first, m, u, v, makes.append more, rest⟩

theorem taken (posted : PostedBy engine s₀ ms x id) : x ∈ taken engine ms s₀ := by
  obtain ⟨_, _, _, _, makes, takes, -⟩ := posted
  exact makes.taken takes

theorem cases_snoc (posted : PostedBy engine s₀ (ms ++ [m]) x id)
    (ran : run? engine ms s₀ = some s) (moved : s.step? engine m = some t) :
    PostedBy engine s₀ ms x id ∨ takes? m s = some x ∧
      id ∉ s.dispatcher.queue.outstanding ∧ id ∈ t.dispatcher.queue.outstanding := by
  obtain ⟨first, m', u, v, makes, rest⟩ := posted
  rcases makes.cases_snoc with before | ⟨rfl, rfl⟩
  · exact .inl ⟨first, m', u, v, before, rest⟩
  · cases ran.symm.trans makes.ran
    cases moved.symm.trans makes.leads
    exact .inr rest

end PostedBy

theorem Concludes.taken (concludes : Concludes engine s₀ ms s x m)
    (ran : run? engine ms s₀ = some s) (moved : s.step? engine m = some t) :
    x ∈ taken engine (ms ++ [m]) s₀ := by
  cases concludes with
  | inline takes returns => exact (makes_last ran moved).taken takes
  | outcome finished posted => exact (posted.append _).taken

theorem Concluded.taken (concluded : Concluded engine s₀ ms x) : x ∈ taken engine ms s₀ := by
  obtain ⟨first, m, u, v, makes, concludes⟩ := concluded
  cases concludes with
  | inline takes returns => exact makes.taken takes
  | outcome finished posted =>
      obtain ⟨rest, rfl⟩ := makes.split
      exact (posted.append _).taken

theorem Concluded.cases_snoc (concluded : Concluded engine s₀ (ms ++ [m]) x)
    (ran : run? engine ms s₀ = some s) :
    Concluded engine s₀ ms x ∨ Concludes engine s₀ ms s x m := by
  obtain ⟨first, m', u, v, makes, concludes⟩ := concluded
  rcases makes.cases_snoc with before | ⟨rfl, rfl⟩
  · exact .inl ⟨first, m', u, v, before, concludes⟩
  · cases ran.symm.trans makes.ran
    exact .inr concludes

/-- What entered the channel before a call has been taken when the call is concluded. -/
theorem Concludes.after (concludes : Concludes engine s₀ ms s x m)
    (ran : run? engine ms s₀ = some s) (moved : s.step? engine m = some t)
    (ordered : Ordered engine s₀ ms s) (ordered' : Ordered engine s₀ (ms ++ [m]) t)
    {front back : List Sent} (split : entered engine ms s₀ = front ++ y :: back) (behind : x ∈ back) :
    ∃ later, Service.taken engine ms s₀ = front ++ y :: later ∧ later <+: back := by
  obtain ⟨between, rest, rfl⟩ := List.append_of_mem behind
  -- at most the last command of all that has been taken is taken by this move, and that comes later
  have came : entered engine (ms ++ [m]) s₀ =
      (front ++ y :: between) ++ x :: (rest ++ (enters? m s).toList) := by
    rw [entered_snoc ran, split]
    simp
  have all := ordered'.taken_before (concludes.taken ran moved) came
  have before : front ++ y :: between <+: Service.taken engine ms s₀ := by
    rw [taken_snoc ran] at all
    cases takes : takes? m s with
    | none =>
        rw [takes, Option.toList_none, List.append_nil] at all
        exact (List.prefix_append _ _).trans all
    | some z =>
        rw [takes, Option.toList_some, List.prefix_concat_iff] at all
        rcases all with same | shorter
        · exact (List.append_inj' same rfl).1 ▸ List.prefix_refl _
        · exact (List.prefix_append _ _).trans shorter
  obtain ⟨more, same⟩ := before
  have fifo := ordered.fifo
  rw [split, ← same] at fifo
  refine ⟨between ++ more, by rw [← same]; simp, s.channel, ?_⟩
  simpa using fifo.symm

theorem Ordered.takes_fresh (ordered : Ordered engine s₀ (ms ++ [m]) t)
    (ran : run? engine ms s₀ = some s) (takes : takes? m s = some x) : x ∉ taken engine ms s₀ := by
  have distinct := (List.nodup_append.mp (List.map_append ▸ ordered.distinct)).1.of_map
  rw [ordered.fifo, taken_snoc ran, takes] at distinct
  intro there
  exact (List.nodup_append.mp (List.nodup_append.mp distinct).1).2.2 x there x
    List.mem_cons_self rfl

/-- Jobs in flight come from commands that were handled, each from one, and each command posts one
at most; it is spent when the call has been concluded. -/
structure Attributed (engine : Engine) (s₀ : Service σ) (ms : List (Move σ)) (s : Service σ) :
    Prop where
  source : ∀ id ∈ s.dispatcher.queue.outstanding, ∃ x, PostedBy engine s₀ ms x id
  issued : ∀ x id, PostedBy engine s₀ ms x id → id < s.dispatcher.queue.nextId
  call : ∀ x y id, PostedBy engine s₀ ms x id → PostedBy engine s₀ ms y id → x = y
  job : ∀ x id id', PostedBy engine s₀ ms x id → PostedBy engine s₀ ms x id' → id = id'
  spent : ∀ x id, Concluded engine s₀ ms x → PostedBy engine s₀ ms x id →
    Dispatcher.Spent id s.dispatcher

namespace Attributed

theorem step (attributed : Attributed engine s₀ ms s) (ran : run? engine ms s₀ = some s)
    (h : s.dispatcher.InStep engine) (moved : s.step? engine m = some t)
    (ordered : Ordered engine s₀ (ms ++ [m]) t) : Attributed engine s₀ (ms ++ [m]) t := by
  have step := step?_cases engine h moved
  have fresh {x : Sent} (takes : takes? m s = some x) : x ∉ taken engine ms s₀ :=
    ordered.takes_fresh ran takes
  refine ⟨?_, ?_, ?_, ?_, ?_⟩
  · intro id there
    by_cases before : id ∈ s.dispatcher.queue.outstanding
    · obtain ⟨x, posted⟩ := attributed.source id before
      exact ⟨x, posted.append [m]⟩
    · obtain ⟨-, x, takes, -⟩ := step.posts h before there
      exact ⟨x, ms, m, s, t, makes_last ran moved, takes, before, there⟩
  · intro x id posted
    rcases posted.cases_snoc ran moved with before | ⟨-, -, there⟩
    · exact Nat.lt_of_lt_of_le (attributed.issued x id before) (step.nextId_le h)
    · exact (step.inStep engine h).accounted.posted id there
  · -- a job that is new has an id that no earlier one has
    have new {x y : Sent} {id : JobId} (before : PostedBy engine s₀ ms x id)
        (absent : id ∉ s.dispatcher.queue.outstanding)
        (there : id ∈ t.dispatcher.queue.outstanding) : x = y :=
      absurd (step.posts h absent there).1 (Nat.ne_of_lt (attributed.issued x id before))
    intro x y id posted posted'
    rcases posted.cases_snoc ran moved with before | ⟨takes, absent, there⟩
    · rcases posted'.cases_snoc ran moved with before' | ⟨-, absent, there⟩
      · exact attributed.call x y id before before'
      · exact new before absent there
    · rcases posted'.cases_snoc ran moved with before' | ⟨takes', -, -⟩
      · exact (new before' absent there).symm
      · exact Option.some.inj (takes.symm.trans takes')
  · intro x id id' posted posted'
    rcases posted.cases_snoc ran moved with before | ⟨takes, absent, there⟩
    · rcases posted'.cases_snoc ran moved with before' | ⟨takes, -, -⟩
      · exact attributed.job x id id' before before'
      · exact absurd before.taken (fresh takes)
    · rcases posted'.cases_snoc ran moved with before' | ⟨-, absent', there'⟩
      · exact absurd before'.taken (fresh takes)
      · exact (step.posts h absent there).1.trans (step.posts h absent' there').1.symm
  · -- what is concluded now was posted before, unless it is a popup, and that posts nothing
    intro x id concluded posted
    rcases concluded.cases_snoc ran with earlier | now
    · rcases posted.cases_snoc ran moved with before | ⟨takes, -, -⟩
      · exact step.spent h (attributed.spent x id earlier before)
      · exact absurd earlier.taken (fresh takes)
    · rcases posted.cases_snoc ran moved with before | ⟨takes, absent, there⟩
      · cases now with
        | inline takes returns => exact absurd before.taken (fresh takes)
        | outcome finished mine =>
            rw [attributed.job x id _ before mine]
            exact step.takes h finished
      · obtain ⟨-, x', takes', stays⟩ := step.posts h absent there
        cases takes.symm.trans takes'
        cases now with
        | inline takes returns => cases returns.symm.trans stays
        | outcome finished mine => cases takes

theorem concludes (attributed : Attributed engine s₀ ms s)
    (there : s.dispatcher.queue.finished ≠ []) : ∃ x, Concludes engine s₀ ms s x .takeOutcome := by
  obtain ⟨f, rest, finished⟩ := List.exists_cons_of_ne_nil there
  obtain ⟨x, posted⟩ := attributed.source f.id (by simp [WorkQueue.outstanding, finished])
  exact ⟨x, .outcome finished posted⟩

theorem unique (attributed : Attributed engine s₀ ms s) (one : Concludes engine s₀ ms s x m)
    (other : Concludes engine s₀ ms s y m) : x = y := by
  cases one with
  | inline takes returns =>
      cases other with
      | inline takes' returns' => exact Option.some.inj (takes.symm.trans takes')
      | outcome finished posted => cases takes
  | outcome finished posted =>
      cases other with
      | inline takes returns => cases takes
      | outcome finished' posted' =>
          cases finished.symm.trans finished'
          exact attributed.call x y _ posted posted'

theorem once (attributed : Attributed engine s₀ ms s) (ran : run? engine ms s₀ = some s)
    (ordered : Ordered engine s₀ (ms ++ [m]) t) (now : Concludes engine s₀ ms s x m) :
    ¬Concluded engine s₀ ms x := by
  intro earlier
  cases now with
  | inline takes returns => exact ordered.takes_fresh ran takes earlier.taken
  | @outcome f rest finished posted =>
      have there : f.id ∈ s.dispatcher.queue.outstanding := by
        simp [WorkQueue.outstanding, finished]
      exact (attributed.spent x f.id earlier posted).2 there

end Attributed

theorem run_attributed (h : s₀.dispatcher.InStep engine) (ordered : Ordered engine s₀ [] s₀)
    (idle : s₀.dispatcher.queue.outstanding = []) (ran : run? engine ms s₀ = some s) :
    Attributed engine s₀ ms s := by
  have nothing {first : List (Move σ)} {m : Move σ} {u v : Service σ}
      (makes : Makes engine s₀ [] first m u v) : False := by
    obtain ⟨rest, split⟩ := makes.split
    simp at split
  refine run_induction (P := Attributed engine s₀) ?_ ?_ ms s ran
  · refine ⟨by simp [idle], ?_, ?_, ?_, ?_⟩
    · exact fun x id ⟨_, _, _, _, makes, _⟩ => (nothing makes).elim
    · exact fun x y id ⟨_, _, _, _, makes, _⟩ => (nothing makes).elim
    · exact fun x id id' ⟨_, _, _, _, makes, _⟩ => (nothing makes).elim
    · exact fun x id ⟨_, _, _, _, makes, _⟩ => (nothing makes).elim
  · intro ms s m t earlier kept moved
    have there := run_inStep h earlier
    exact kept.step earlier there moved ((run_ordered h ordered earlier).step earlier
      (step?_cases engine there moved))

end FilterDispatch.Service
