import FilterDispatch.Proofs.Dispatcher.Causes

/-!
The audience of a pass.  What a call, a popup or a delivery announces is told to every observer that is
registered when the pass ends, and to no other.
-/

namespace FilterDispatch

namespace Effect

def heardBy? (o : ObserverId) : Effect → Option Notification
  | .told other n => if other = o then some n else none
  | _ => none

/-- Neither a pass nor a word to an observer. -/
def Muted (x : Effect) : Prop :=
  x.pass? = none ∧ ∀ o, x.heardBy? o = none

end Effect

/-- All that this observer is told, in turn. -/
def heard (o : ObserverId) (effects : List Effect) : List Notification :=
  effects.filterMap (Effect.heardBy? o)

/-- All that passes are made of, in turn. -/
def announced (effects : List Effect) : List Notification :=
  effects.filterMap Effect.pass?

theorem heard_muted {o : ObserverId} {effects : List Effect} (muted : ∀ x ∈ effects, x.Muted) :
    heard o effects = [] :=
  List.filterMap_eq_nil_iff.mpr fun x member => (muted x member).2 o

theorem announced_muted {effects : List Effect} (muted : ∀ x ∈ effects, x.Muted) :
    announced effects = [] :=
  List.filterMap_eq_nil_iff.mpr fun x member => (muted x member).1

theorem heard_told (o : ObserverId) (n : Notification) {os : List ObserverId} (distinct : os.Nodup) :
    heard o (os.map (.told · n)) = if o ∈ os then [n] else [] := by
  induction os with
  | nil => rfl
  | cons other rest ih =>
      obtain ⟨fresh, distinct⟩ := List.nodup_cons.mp distinct
      have last := ih distinct
      simp only [heard, List.map_cons, List.filterMap_cons, Effect.heardBy?] at last ⊢
      rw [last]
      by_cases same : other = o
      · subst same
        simp [fresh]
      · simp [same, Ne.symm same]

theorem announced_passed {xs : List Effect} (muted : ∀ x ∈ xs, x.Muted) (n : Notification)
    (os : List ObserverId) : announced (xs ++ .pass n :: os.map (.told · n)) = [n] := by
  have told : (os.map (Effect.told · n)).filterMap Effect.pass? = [] := by
    simp [List.filterMap_eq_nil_iff, Effect.pass?]
  have first := announced_muted muted
  simp only [announced] at first ⊢
  rw [List.filterMap_append, first, List.filterMap_cons, told]
  rfl

theorem heard_passed {xs : List Effect} (muted : ∀ x ∈ xs, x.Muted) (n : Notification)
    {os : List ObserverId} (distinct : os.Nodup) (o : ObserverId) :
    heard o (xs ++ .pass n :: os.map (.told · n)) = if o ∈ os then [n] else [] := by
  have first := heard_muted (o := o) muted
  have last := heard_told o n distinct
  simp only [heard] at first last ⊢
  rw [List.filterMap_append, first, List.filterMap_cons, ← last]
  rfl

/-- At most one thing is announced, and it is told to this audience. -/
inductive Heeded (audience : List ObserverId) : List Effect → Prop
  | silent {xs} : (∀ x ∈ xs, x.Muted) → Heeded audience xs
  | passed {xs n} : (∀ x ∈ xs, x.Muted) → Heeded audience (xs ++ .pass n :: audience.map (.told · n))

namespace Heeded

variable {audience : List ObserverId} {effects : List Effect}

theorem announced_cases (heeded : Heeded audience effects) :
    announced effects = [] ∨ ∃ n, announced effects = [n] := by
  cases heeded with
  | silent muted => exact .inl (announced_muted muted)
  | @passed xs n muted => exact .inr ⟨n, announced_passed muted n audience⟩

theorem heard_eq (heeded : Heeded audience effects) (distinct : audience.Nodup) (o : ObserverId) :
    heard o effects = if o ∈ audience then announced effects else [] := by
  cases heeded with
  | silent muted => rw [heard_muted muted, announced_muted muted, ite_self]
  | @passed xs n muted => rw [heard_passed muted n distinct, announced_passed muted]

end Heeded

theorem Call.inquiries_muted (c : Call) (found : Option Sight) :
    ∀ x ∈ c.inquiries found, x.Muted := by
  cases found with
  | none => simp [inquiries, Effect.Muted, Effect.pass?, Effect.heardBy?]
  | some s =>
      by_cases asks : c.asksSiteKey <;>
        simp [inquiries, asks, Effect.Muted, Effect.pass?, Effect.heardBy?]

theorem Sight.inquiries_muted (frame : FrameId) (found : Option Sight) :
    ∀ x ∈ inquiries frame found, x.Muted := by
  cases found with
  | none => simp [inquiries, Effect.Muted, Effect.pass?, Effect.heardBy?]
  | some s => simp [inquiries, Effect.Muted, Effect.pass?, Effect.heardBy?]

theorem Pending.replies_muted (entry : Pending) (out : Except JobError JobOutput) :
    ∀ x ∈ entry.replies out, x.Muted := by
  unfold replies
  cases entry.reply? out with
  | none => simp
  | some told => simp [Effect.Muted, Effect.pass?, Effect.heardBy?]

theorem muted_append {xs ys : List Effect} (first : ∀ x ∈ xs, x.Muted) (last : ∀ x ∈ ys, x.Muted) :
    ∀ x ∈ xs ++ ys, x.Muted := by
  intro x member
  rcases List.mem_append.mp member with here | there
  · exact first x here
  · exact last x there

variable {σ : Type} [Host σ]

/-- An observer panics when the settling of an entry tells it something. -/
inductive Pending.Upset (entry : Pending) (out : Except JobError JobOutput)
    (observers : ObserverList) (h : σ) : Prop
  | told {after frame event live k p l} : entry.replied out h = .ok () after →
      entry.report? out = some (frame, event) → Host.resolve frame after = .ok (some live) k →
      (event live).tellAll (observers.prune (Host.owned k)).entries k = .error p l →
      Upset entry out observers h

namespace Dispatcher

variable {d : Dispatcher σ}

omit [Host σ] in
theorem ruling_muted (snapshot : Snapshot) (url : Url) (frame : FrameId) (s : Sight) :
    ∀ x ∈ ruling snapshot url frame s, x.Muted :=
  muted_append (Sight.inquiries_muted frame (some s))
    (by simp [Effect.Muted, Effect.pass?, Effect.heardBy?])

/-- An observer panics when the operation tells it something. -/
inductive Upset (d : Dispatcher σ) : Op σ → Prop
  | popup {snapshot url frame s h c k n p l} : Sight.look frame d.stage.host = .ok (some s) h →
      Host.classifyInline (s.popupCall snapshot url) h = .ok c k → s.popupMatched? url c = some n →
      n.tellAll (d.observers.prune (Host.owned k)).entries k = .error p l →
      Upset d (.popup snapshot url frame)
  | next {f queue entry} : d.queue.tryNext = some (f, queue) →
      d.pending.lookup f.id = some entry → entry.Upset f.output d.observers d.stage.host →
      Upset d .next

omit [Host σ] in
/-- From one state to the other nothing is announced, and no observer is told anything. -/
def Silent (d e : Dispatcher σ) : Prop :=
  ∀ x ∈ effectsSince d e, x.Muted

omit [Host σ] in
/-- What is announced meanwhile is told to those that are registered in the end. -/
def Heeds (d e : Dispatcher σ) : Prop :=
  Heeded e.observers.entries (effectsSince d e)

omit [Host σ] in
theorem Silent.heeds {e : Dispatcher σ} (silent : d.Silent e) : d.Heeds e :=
  .silent silent

omit [Host σ] in
theorem silent_of_grown {e : Dispatcher σ} {new : List Effect}
    (grown : e.stage.effects = d.stage.effects ++ new) (muted : ∀ x ∈ new, x.Muted) :
    d.Silent e := by
  rw [Silent, effectsSince_eq grown]
  exact muted

omit [Host σ] in
theorem silent_of_same {e : Dispatcher σ} (same : e.stage.effects = d.stage.effects) : d.Silent e :=
  silent_of_grown (same.trans (List.append_nil _).symm) (by simp)

omit [Host σ] in
theorem silent_logged {new : List Effect} {h : σ} (muted : ∀ x ∈ new, x.Muted) :
    d.Silent (d.logged new h) :=
  silent_of_grown (logged_effects new h d) muted

theorem place_silent (c : Call) (d : Dispatcher σ) : d.Silent (Control.final (place c) d) := by
  have callback : ∀ x ∈ [Effect.callback c.callback c.denied], x.Muted := by
    simp [Effect.Muted, Effect.pass?, Effect.heardBy?]
  have ways := called_cases c d
  unfold Control.final
  generalize place c d = outcome at ways ⊢
  cases ways with
  | @hostPanics _ _ found new looked first =>
      exact silent_logged fun x member => c.inquiries_muted found x (first.subset member)
  | callbackPanics looked received =>
      exact silent_logged (muted_append (c.inquiries_muted none) callback)
  | denied looked received =>
      exact silent_logged (muted_append (c.inquiries_muted none) callback)
  | @posted sight h looked =>
      exact silent_of_grown (logged_effects (c.inquiries (some sight)) h d) (c.inquiries_muted _)

theorem popup_heeds {snapshot : Snapshot} {url : Url} {frame : FrameId}
    (calm : ¬d.Upset (.popup snapshot url frame)) :
    d.Heeds (Control.final (popup snapshot url frame) d) := by
  have ways := popped snapshot url frame d
  unfold Control.final
  generalize popup snapshot url frame d = outcome at ways ⊢
  cases ways with
  | @hostPanics _ _ found new looked first =>
      exact (silent_logged fun x member => Sight.inquiries_muted frame found x
        (first.subset member)).heeds
  | frameGone looked => exact (silent_logged (Sight.inquiries_muted frame none)).heeds
  | enginePanics looked ruled => exact (silent_logged (ruling_muted snapshot url frame _)).heeds
  | undecided looked ruled reports => exact (silent_logged (ruling_muted snapshot url frame _)).heeds
  | reported looked ruled reports same effects =>
      rw [Heeds, effectsSince_eq effects, same]
      exact .passed (ruling_muted snapshot url frame _)
  | observerPanics looked ruled reports first effects cause =>
      exact absurd (.popup looked ruled reports cause) calm

theorem settle_heeds {entry : Pending} {out : Except JobError JobOutput}
    (calm : ¬entry.Upset out d.observers d.stage.host) :
    d.Heeds (Control.final (settle entry out) d) := by
  have ways := settled entry out d
  have causes := fun p => (settle_panics : (∃ e, settle entry out d = .error p e) ↔ _).mp
  unfold Control.final
  generalize settle entry out d = outcome at ways causes ⊢
  have replies := entry.replies_muted out
  have asked (frame : FrameId) (found : Option LiveFrame) :
      ∀ x ∈ [Effect.resolved frame found], x.Muted := by
    simp [Effect.Muted, Effect.pass?, Effect.heardBy?]
  cases ways with
  | callbackPanics replied => exact (silent_logged replies).heeds
  | undecided replied reports => exact (silent_logged replies).heeds
  | hostPanics replied reports resolved => exact (silent_logged replies).heeds
  | frameGone replied reports resolved => exact (silent_logged (muted_append replies (asked _ _))).heeds
  | @reported h frame event live k told t replied reports resolved same effects =>
      have shape : reporting entry out frame live (event live) told =
          (entry.replies out ++ [.resolved frame (some live)]) ++
            .pass (event live) :: told.map (.told · (event live)) := by simp [reporting]
      rw [Heeds, effectsSince_eq effects, shape, same]
      exact .passed (muted_append replies (asked _ _))
  | observerPanics replied reports resolved first effects =>
      rcases causes _ ⟨_, rfl⟩ with ⟨h', failed⟩ | ⟨h', replied', panics⟩
      · rw [replied] at failed
        cases failed
      · cases replied.symm.trans replied'
        refine absurd ?_ calm
        cases panics with
        | asked reports' failed =>
            cases reports.symm.trans reports'
            rw [resolved] at failed
            cases failed
        | told reports' resolved' cause => exact .told replied reports' resolved' cause

theorem next_heeds (engine : Engine) (accounted : d.queue.Accounted) (calm : ¬d.Upset .next) :
    d.Heeds (step engine .next d).2 := by
  cases found : d.queue.tryNext with
  | none =>
      obtain ⟨p, -, same⟩ := processNext_of_none found
      rw [step_map (m := processNext) (f := Response.progress) rfl d, Control.final_ok same]
      exact (silent_of_same rfl).heeds
  | some taken =>
      obtain ⟨f, queue⟩ := taken
      rw [step_next engine accounted found]
      cases known : d.pending.lookup f.id with
      | none =>
          rw [Control.final_ok (complete_of_none (d := { d with queue }) known)]
          exact (silent_of_same rfl).heeds
      | some entry =>
          rw [Control.final_congr (complete_of_some (d := { d with queue }) known)]
          exact settle_heeds (d := ({ d with queue }).forgetting f.id)
            fun upset => calm (.next found known upset)

theorem call_silent (engine : Engine) {op : Op σ} {c : Call} (mine : op.call? = some c) :
    d.Silent (step engine op d).2 := by
  have performed := perform_call engine mine d
  rw [step_final]
  cases refusal : op.refusal? with
  | some p =>
      rw [refusal] at performed
      rw [Control.final_error performed]
      exact silent_of_same rfl
  | none =>
      simp only [refusal] at performed
      rw [Control.final_congr performed, Control.final_map (place c) (fun _ => Response.done)]
      exact place_silent c d

theorem step_silent (engine : Engine) {op : Op σ} (own : op.injects = false)
    (stays : op.drains = false) (other : ∀ snapshot url frame, op ≠ .popup snapshot url frame) :
    d.Silent (step engine op d).2 := by
  cases op with
  | popup snapshot url frame => exact absurd rfl (other snapshot url frame)
  | next => cases stays
  | ready => cases stays
  | untilIdle => cases stays
  | complete f => cases own
  | document snapshot url frame => exact silent_of_same rfl
  | addObserver o => exact silent_of_same rfl
  | removeObserver o => exact silent_of_same rfl
  | changeHost change => exact silent_of_same rfl
  | start id => exact silent_of_same (congrArg Stage.effects (start_stage id d))
  | finish id => exact silent_of_same (congrArg Stage.effects (finish_stage engine id d))
  | _ => exact call_silent engine rfl

theorem not_upset (quiet : ∀ o n (h : σ), ∃ k, Host.observe o n h = .ok () k) (d : Dispatcher σ)
    (op : Op σ) : ¬d.Upset op := by
  have fine {n : Notification} {os : List ObserverId} {h l : σ} {p : Panic}
      (panicked : n.tellAll os h = .error p l) : False := by
    obtain ⟨k, told⟩ := n.tellAll_ok quiet os h
    rw [told] at panicked
    cases panicked
  intro upset
  cases upset with
  | popup looked ruled reports cause => exact fine cause
  | next found known upset =>
      obtain ⟨-, -, -, cause⟩ := upset
      exact fine cause

end Dispatcher

end FilterDispatch
