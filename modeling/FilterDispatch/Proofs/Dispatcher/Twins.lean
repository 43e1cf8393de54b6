import FilterDispatch.Proofs.Dispatcher.Closure
import FilterDispatch.Proofs.Observer.Passes

/-!
Twins.  Two dispatchers may have different pasts, and one of them may still list observers that are
dead.  Whatever is asked of both comes to the same, writes the same, and leaves them twins.
-/

namespace FilterDispatch

/-- Observers that have been made stay made, and none of them comes back from the dead. -/
def Mortal {σ : Type} [Host σ] (made : σ → ObserverId → Prop) (h k : σ) : Prop :=
  ∀ o, made h o → made k o ∧ (Host.owned k o = true → Host.owned h o = true)

instance {σ : Type} [Host σ] {made : σ → ObserverId → Prop} : IsPreorder σ (Mortal made) where
  refl _ _ there := ⟨there, id⟩
  trans h k l first later o there := by
    obtain ⟨there', back⟩ := first o there
    obtain ⟨there'', back'⟩ := later o there'
    exact ⟨there'', back ∘ back'⟩

namespace ObserverList

variable {owned owned' : ObserverId → Bool} {l : ObserverList}

theorem prune_prune (mortal : ∀ o ∈ l.entries, owned' o = true → owned o = true) :
    (l.prune owned).prune owned' = l.prune owned' := by
  have same : (l.entries.filter (l.alive owned)).filter (l.alive owned') =
      l.entries.filter (l.alive owned') := by
    rw [List.filter_filter]
    apply List.filter_congr
    intro o there
    cases lives : l.alive owned' o with
    | false => rfl
    | true =>
        rcases Bool.or_eq_true_iff.mp lives with own | held
        · simp [alive, mortal o there own]
        · simp only [alive, held, Bool.or_true, Bool.and_self]
  exact congrArg (ObserverList.mk · l.held) same

theorem prune_add (owned : ObserverId → Bool) (l : ObserverList) (o : ObserverId) :
    ((l.add o).2).prune owned =
      if (l.prune owned).alive owned o then ((l.prune owned).add o).2 else l.prune owned := by
  change _ = if l.alive owned o then _ else _
  by_cases there : o ∈ l.entries
  · have added : (l.add o).2 = l := by simp [add, contains, there]
    rw [added]
    split
    · next lives =>
        have still : o ∈ (l.prune owned).entries := List.mem_filter.mpr ⟨there, lives⟩
        simp [add, contains, still]
    · rfl
  · have added : (l.add o).2 = { l with entries := l.entries ++ [o] } := by
      simp [add, contains, there]
    have absent : o ∉ (l.prune owned).entries := fun kept => there (List.mem_filter.mp kept).1
    have split : ((l.add o).2).prune owned =
        { l with entries := (l.prune owned).entries ++ [o].filter (l.alive owned) } := by
      rw [added]
      exact congrArg (ObserverList.mk · l.held) (List.filter_append _ _)
    rw [split]
    cases lives : l.alive owned o with
    | false => simp [lives, prune]
    | true =>
        have more : ((l.prune owned).add o).2 =
            { l with entries := (l.prune owned).entries ++ [o] } := by
          rw [add, contains, if_neg (by simpa using absent)]
          rfl
        rw [if_pos rfl, more, List.filter_singleton, lives]
        rfl

theorem prune_remove (owned : ObserverId → Bool) (l : ObserverList) (o : ObserverId) :
    ((l.remove o).2).prune owned = ((l.prune owned).remove o).2 := by
  have same : (l.entries.filter (· ≠ o)).filter (l.alive owned) =
      (l.entries.filter (l.alive owned)).filter (· ≠ o) := by
    rw [List.filter_filter, List.filter_filter]
    apply List.filter_congr
    intro other _
    exact Bool.and_comm _ _
  exact congrArg (ObserverList.mk · l.held) same

end ObserverList

namespace Stage

variable {σ α β : Type}

/-- What an action comes to and what it writes depend on the host alone. -/
def Logs (m : Control (Stage σ) α) : Prop :=
  ∀ h, (∃ a new k, ∀ s, s.host = h → m s = .ok a (s.log new k)) ∨
    ∃ p new k, ∀ s, s.host = h → m s = .error p (s.log new k)

theorem logs_pure (a : α) : Logs (pure a : Control (Stage σ) α) := by
  intro h
  refine .inl ⟨a, [], h, fun s here => ?_⟩
  subst here
  rfl

theorem Logs.bind {m : Control (Stage σ) α} {f : α → Control (Stage σ) β} (first : Logs m)
    (rest : ∀ a, Logs (f a)) : Logs (m >>= f) := by
  intro h
  rcases first h with ⟨a, new, k, went⟩ | ⟨p, new, k, failed⟩
  · rcases rest a k with ⟨b, later, l, went'⟩ | ⟨p, later, l, failed⟩
    · refine .inl ⟨b, new ++ later, l, fun s here => ?_⟩
      rw [Control.bind_of_ok f (went s here), went' _ (log_host new k s), log_log]
    · refine .inr ⟨p, new ++ later, l, fun s here => ?_⟩
      rw [Control.bind_of_ok f (went s here), failed _ (log_host new k s), log_log]
  · exact .inr ⟨p, new, k, fun s here => Control.bind_of_error f (failed s here)⟩

theorem logs_note (e : Effect) : Logs (note e : Control (Stage σ) Unit) := by
  intro h
  refine .inl ⟨(), [e], h, fun s here => ?_⟩
  subst here
  rfl

theorem logs_act (m : Control σ α) : Logs (act m) := by
  intro h
  cases went : m h with
  | ok a k =>
      refine .inl ⟨a, [], k, fun s here => ?_⟩
      simp only [act, here, went]
      rfl
  | error p k =>
      refine .inr ⟨p, [], k, fun s here => ?_⟩
      simp only [act, here, went]
      rfl

variable [Host σ]

theorem logs_resolve (frame : FrameId) : Logs (resolve frame : Control (Stage σ) _) :=
  (logs_act _).bind fun _ => (logs_note _).bind fun _ => logs_pure _

theorem logs_ancestorsOf (live : LiveFrame) : Logs (ancestorsOf live : Control (Stage σ) _) :=
  (logs_act _).bind fun _ => (logs_note _).bind fun _ => logs_pure _

theorem logs_siteKeyFor (urls : List Url) : Logs (siteKeyFor urls : Control (Stage σ) _) := by
  refine (logs_act _).bind fun found => (logs_note _).bind fun _ => ?_
  cases found with
  | none => exact logs_pure _
  | some page => exact logs_pure _

theorem logs_answer (call : CallId) (a : Answer) : Logs (answer call a : Control (Stage σ) _) :=
  (logs_note _).bind fun _ => logs_act _

theorem logs_tell (o : ObserverId) (n : Notification) : Logs (tell o n : Control (Stage σ) _) :=
  (logs_note _).bind fun _ => logs_act _

theorem logs_see (c : Call) : Logs (c.see : Control (Stage σ) _) := by
  refine Logs.bind ((logs_resolve c.frame).bind fun found => ?_) fun found => ?_
  · cases found with
    | none => exact logs_pure _
    | some live => exact (logs_ancestorsOf live).bind fun _ => logs_pure _
  · cases found with
    | none => exact logs_pure _
    | some shown =>
        dsimp only
        split
        · exact (logs_siteKeyFor _).bind fun _ => logs_pure _
        · exact logs_pure _

def tellAll (n : Notification) : List ObserverId → Control (Stage σ) Unit
  | [] => return ()
  | o :: rest => do
    tell o n
    tellAll n rest

theorem logs_tellAll (n : Notification) (os : List ObserverId) :
    Logs (tellAll n os : Control (Stage σ) Unit) := by
  induction os with
  | nil => exact logs_pure _
  | cons o rest ih => exact (logs_tell o n).bind fun _ => ih

theorem tellAll_along {R : Stage σ → Stage σ → Prop} [IsPreorder (Stage σ) R] {n : Notification}
    (heard : ∀ o, Control.Along R (tell o n)) (os : List ObserverId) :
    Control.Along R (tellAll n os) := by
  induction os with
  | nil => exact .pure _
  | cons o rest ih => exact (heard o).bind fun _ => ih

end Stage

namespace Dispatcher

variable {σ : Type} [Host σ]

theorem passOver_eq (n : Notification) (os : List ObserverId) (l : ObserverList) (s : Stage σ)
    (registered : ∀ o ∈ os, l.contains o = true) :
    ObserverList.passOver (fun o => inPass (Stage.tell o n)) os (l, s) =
      inPass (Stage.tellAll n os) (l, s) := by
  induction os generalizing s with
  | nil => rfl
  | cons o rest ih =>
      have here : l.contains o = true := registered o List.mem_cons_self
      have others := fun s => ih s fun x member => registered x (List.mem_cons_of_mem _ member)
      simp only [ObserverList.passOver, Control.bind_apply, Control.get_apply, here, if_true,
        inPass, Stage.tellAll]
      cases Stage.tell o n s with
      | ok _ t => exact others t
      | error p t => rfl

theorem announce_eq (n : Notification) (d : Dispatcher σ) :
    announce n d = onStage (do Stage.note (.pass n); Stage.tellAll n d.audience)
      { d with observers := d.observers.prune (Host.owned d.stage.host) } := by
  let start := d.observers.prune (Host.owned d.stage.host)
  let noted := d.stage.log [.pass n] d.stage.host
  have registered : ∀ o ∈ d.audience, start.collect.contains o = true := fun o member => by
    have there : o ∈ start.entries := member
    simpa [ObserverList.contains, ObserverList.collect] using there
  have noting : onStage (Stage.note (.pass n)) d = .ok () { d with stage := noted } := rfl
  have passed := passOver_eq n d.audience start.collect noted registered
  have whole : (do Stage.note (.pass n); Stage.tellAll n d.audience : Control (Stage σ) Unit) d.stage =
      Stage.tellAll n d.audience noted := rfl
  rw [onStage_apply, whole]
  cases told : Stage.tellAll n d.audience noted with
  | ok _ t =>
      rw [inPass, told] at passed
      have notified := ObserverList.notify_of_ok (fun s : Stage σ => Host.owned s.host) d.observers
        noted passed
      refine Control.bind_eq_ok.mpr ⟨(), _, noting, ?_⟩
      simp only [notified]
      rfl
  | error p t =>
      rw [inPass, told] at passed
      have notified := ObserverList.notify_of_error (fun s : Stage σ => Host.owned s.host) d.observers
        noted passed
      refine Control.bind_eq_error.mpr (.inr ⟨(), _, noting, ?_⟩)
      simp only [notified]
      rfl

omit [Host σ] in
/-- Whoever is registered has been made. -/
def Sound (made : σ → ObserverId → Prop) (d : Dispatcher σ) : Prop :=
  ∀ o ∈ d.observers.entries, made d.stage.host o

/-- The dispatchers differ at most in their pasts and in registrations of the dead. -/
structure Twin (made : σ → ObserverId → Prop) (d e : Dispatcher σ) : Prop where
  queue : e.queue = d.queue
  pending : e.pending = d.pending
  host : e.stage.host = d.stage.host
  living : e.observers.prune (Host.owned d.stage.host) = d.observers.prune (Host.owned d.stage.host)
  sound : d.Sound made
  sound' : e.Sound made

variable {made : σ → ObserverId → Prop}

/-- Two steps come to the same, and add the same to the two journals. -/
inductive Together {α : Type} (made : σ → ObserverId → Prop) (first second : List Effect) :
    EStateM.Result Panic (Dispatcher σ) α → EStateM.Result Panic (Dispatcher σ) α → Prop
  | ok {a d e new} : Twin made d e → d.stage.effects = first ++ new →
      e.stage.effects = second ++ new → Together made first second (.ok a d) (.ok a e)
  | error {p d e new} : Twin made d e → d.stage.effects = first ++ new →
      e.stage.effects = second ++ new → Together made first second (.error p d) (.error p e)

theorem Together.after {α : Type} {first second new : List Effect}
    {left right : EStateM.Result Panic (Dispatcher σ) α}
    (together : Together made (first ++ new) (second ++ new) left right) :
    Together made first second left right := by
  cases together with
  | ok twin grown grown' =>
      rw [List.append_assoc] at grown grown'
      exact .ok twin grown grown'
  | error twin grown grown' =>
      rw [List.append_assoc] at grown grown'
      exact .error twin grown grown'

/-- Twins do the same in it. -/
def Uniform {α : Type} (made : σ → ObserverId → Prop) (m : Control (Dispatcher σ) α) : Prop :=
  ∀ d e, Twin made d e → Together made d.stage.effects e.stage.effects (m d) (m e)

section

variable {d e f : Dispatcher σ}

theorem Twin.refl (sound : d.Sound made) : Twin made d d :=
  ⟨rfl, rfl, rfl, rfl, sound, sound⟩

theorem Twin.symm (twin : Twin made d e) : Twin made e d :=
  ⟨twin.queue.symm, twin.pending.symm, twin.host.symm, by rw [twin.host]; exact twin.living.symm,
    twin.sound', twin.sound⟩

theorem Twin.trans (first : Twin made d e) (later : Twin made e f) : Twin made d f := by
  refine ⟨later.queue.trans first.queue, later.pending.trans first.pending,
    later.host.trans first.host, ?_, first.sound, later.sound'⟩
  have living := later.living
  rw [first.host] at living
  exact living.trans first.living

theorem Twin.audience (twin : Twin made d e) : e.audience = d.audience := by
  rw [Dispatcher.audience, twin.host]
  exact congrArg ObserverList.entries twin.living

theorem Twin.logged (twin : Twin made d e) (new : List Effect) {k : σ}
    (mortal : Mortal made d.stage.host k) : Twin made (d.logged new k) (e.logged new k) := by
  have made' : ∀ o ∈ e.observers.entries, made d.stage.host o := twin.host ▸ twin.sound'
  refine ⟨twin.queue, twin.pending, rfl, ?_, fun o there => (mortal o (twin.sound o there)).1,
    fun o there => (mortal o (made' o there)).1⟩
  change e.observers.prune (Host.owned k) = d.observers.prune (Host.owned k)
  have first := ObserverList.prune_prune fun o there => (mortal o (twin.sound o there)).2
  have second := ObserverList.prune_prune fun o there => (mortal o (made' o there)).2
  rw [← second, twin.living, first]

theorem Twin.withQueue (twin : Twin made d e) (queue : WorkQueue Job JobOutput) :
    Twin made { d with queue } { e with queue } :=
  ⟨rfl, twin.pending, twin.host, twin.living, twin.sound, twin.sound'⟩

theorem Twin.pruned (twin : Twin made d e) :
    Twin made { d with observers := d.observers.prune (Host.owned d.stage.host) }
      { e with observers := e.observers.prune (Host.owned e.stage.host) } := by
  refine ⟨twin.queue, twin.pending, twin.host, ?_,
    fun o there => twin.sound o (List.mem_filter.mp there).1,
    fun o there => twin.sound' o (List.mem_filter.mp there).1⟩
  rw [twin.host]
  exact congrArg _ twin.living

end

section

variable {α β : Type}

theorem uniform_pure (a : α) : Uniform made (pure a : Control (Dispatcher σ) α) :=
  fun _ _ twin => .ok twin (List.append_nil _).symm (List.append_nil _).symm

theorem uniform_throw (p : Panic) : Uniform made (throw p : Control (Dispatcher σ) α) :=
  fun _ _ twin => .error twin (List.append_nil _).symm (List.append_nil _).symm

theorem Uniform.bind {m : Control (Dispatcher σ) α} {f : α → Control (Dispatcher σ) β}
    (first : Uniform made m) (rest : ∀ a, Uniform made (f a)) : Uniform made (m >>= f) := by
  intro d e twin
  have both := first d e twin
  rw [Control.bind_apply, Control.bind_apply]
  generalize m d = left at both
  generalize m e = right at both
  cases both with
  | @ok a d' e' new twin' grown grown' =>
      have next := rest a d' e' twin'
      rw [grown, grown'] at next
      exact next.after
  | error twin' grown grown' => exact .error twin' grown grown'

theorem uniform_onStage {m : Control (Stage σ) α} (logs : Stage.Logs m)
    (mortal : Control.Along (Stage.OnHost (Mortal made)) m) :
    Uniform made (onStage m : Control (Dispatcher σ) α) := by
  intro d e twin
  have along := mortal d.stage
  rw [onStage_apply, onStage_apply]
  rcases logs d.stage.host with ⟨a, new, k, went⟩ | ⟨p, new, k, failed⟩
  · rw [Control.final_ok (went d.stage rfl)] at along
    rw [went d.stage rfl, went e.stage twin.host]
    exact .ok (twin.logged new along) (Stage.effects_log _ _ _) (Stage.effects_log _ _ _)
  · rw [Control.final_error (failed d.stage rfl)] at along
    rw [failed d.stage rfl, failed e.stage twin.host]
    exact .error (twin.logged new along) (Stage.effects_log _ _ _) (Stage.effects_log _ _ _)

theorem uniform_modify {f : Dispatcher σ → Dispatcher σ}
    (kept : ∀ d e, Twin made d e → Twin made (f d) (f e))
    (silent : ∀ d, (f d).stage.effects = d.stage.effects) :
    Uniform made (modify f : Control (Dispatcher σ) Unit) := by
  intro d e twin
  have still (d : Dispatcher σ) : (f d).stage.effects = d.stage.effects ++ [] := by
    rw [silent, List.append_nil]
  exact .ok (kept d e twin) (still d) (still e)

end

theorem uniform_post (job : Job) (entry : Pending) :
    Uniform made (post job entry : Control (Dispatcher σ) Unit) := by
  refine uniform_modify ?_ fun _ => rfl
  intro d e twin
  refine ⟨?_, ?_, twin.host, twin.living, twin.sound, twin.sound'⟩
  · change (e.queue.post job).2 = (d.queue.post job).2
    rw [twin.queue]
  · change e.pending ++ [((e.queue.post job).1, entry)] = d.pending ++ [((d.queue.post job).1, entry)]
    rw [twin.queue, twin.pending]

theorem uniform_takePending (id : JobId) :
    Uniform made (takePending id : Control (Dispatcher σ) (Option Pending)) := by
  intro d e twin
  have taken (d : Dispatcher σ) : takePending id d = .ok (d.pending.lookup id) (d.forgetting id) := rfl
  rw [taken, taken, twin.pending]
  refine .ok ⟨twin.queue, ?_, twin.host, twin.living, twin.sound, twin.sound'⟩
    (List.append_nil _).symm (List.append_nil _).symm
  change e.pending.filter _ = d.pending.filter _
  rw [twin.pending]

section

variable (kept : Stage.Kept (Stage.OnHost (Mortal made) : Stage σ → Stage σ → Prop))
include kept

theorem uniform_announce (n : Notification) :
    Uniform made (announce n : Control (Dispatcher σ) Unit) := by
  intro d e twin
  have logs : Stage.Logs
      (do Stage.note (.pass n); Stage.tellAll n d.audience : Control (Stage σ) Unit) :=
    (Stage.logs_note _).bind fun _ => Stage.logs_tellAll n d.audience
  have mortal : Control.Along (Stage.OnHost (Mortal made))
      (do Stage.note (.pass n); Stage.tellAll n d.audience : Control (Stage σ) Unit) :=
    (kept.pass n).bind fun _ => Stage.tellAll_along (kept.tell · n) d.audience
  rw [announce_eq, announce_eq, twin.audience]
  exact uniform_onStage logs mortal _ _ twin.pruned

theorem uniform_place (c : Call) : Uniform made (place c : Control (Dispatcher σ) Unit) := by
  refine (uniform_onStage (Stage.logs_see c) (see_along kept.toAsked c)).bind fun found => ?_
  cases found with
  | none => exact uniform_onStage (Stage.logs_answer _ _) (kept.answer _ _)
  | some sight => exact uniform_post _ _

theorem uniform_settle (entry : Pending) (out : Except JobError JobOutput) :
    Uniform made (settle entry out : Control (Dispatcher σ) Unit) := by
  rw [settle_eq]
  refine Uniform.bind ?_ fun _ => ?_
  · unfold reply
    cases entry.reply? out with
    | none => exact uniform_pure _
    | some told => exact uniform_onStage (Stage.logs_answer _ _) (kept.answer _ _)
  · unfold report
    cases entry.report? out with
    | none => exact uniform_pure _
    | some due =>
        refine (uniform_onStage (Stage.logs_resolve _) (kept.resolve _)).bind fun found => ?_
        cases found with
        | none => exact uniform_pure _
        | some live => exact uniform_announce kept _

theorem uniform_complete (f : Finished JobOutput) :
    Uniform made (complete f : Control (Dispatcher σ) Unit) := by
  refine (uniform_takePending f.id).bind fun found => ?_
  cases found with
  | none => exact uniform_pure _
  | some entry => exact uniform_settle kept entry f.output

theorem uniform_processNext : Uniform made (processNext : Control (Dispatcher σ) Progress) := by
  intro d e twin
  rw [processNext_apply, processNext_apply, twin.queue]
  cases d.queue.next with
  | idle => exact uniform_pure _ d e twin
  | pending => exact uniform_pure _ d e twin
  | taken f queue =>
      exact ((uniform_complete kept f).bind fun _ => uniform_pure _) { d with queue } { e with queue }
        (twin.withQueue queue)

theorem uniform_processAtMost (n : Nat) :
    Uniform made (processAtMost n : Control (Dispatcher σ) Nat) := by
  induction n with
  | zero => exact uniform_pure _
  | succ n ih =>
      intro d e twin
      rw [processAtMost_succ, processAtMost_succ, twin.queue]
      cases d.queue.tryNext with
      | none => exact uniform_pure _ d e twin
      | some taken =>
          exact ((uniform_complete kept taken.1).bind fun _ => ih.bind fun _ => uniform_pure _)
            { d with queue := taken.2 } { e with queue := taken.2 } (twin.withQueue taken.2)

theorem uniform_runFor (n : Nat) : Uniform made (runFor n : Control (Dispatcher σ) Progress) := by
  induction n with
  | zero => exact uniform_pure _
  | succ n ih =>
      refine (uniform_processNext kept).bind fun p => ?_
      cases p with
      | delivered => exact ih
      | idle => exact uniform_pure _
      | pending => exact uniform_pure _

end

omit [Host σ] in
def Op.isPopup : Op σ → Bool
  | .popup .. => true
  | _ => false

/-- A change of the host brings nobody back from the dead. -/
def Op.Mortal (made : σ → ObserverId → Prop) (op : Op σ) : Prop :=
  ∀ change, op = .changeHost change → ∀ h, FilterDispatch.Mortal made h (change h)

variable {d e : Dispatcher σ}

theorem Twin.addObserver (twin : Twin made d e) {o : ObserverId} (new : made d.stage.host o) :
    Twin made (d.addObserver o) (e.addObserver o) := by
  refine ⟨twin.queue, twin.pending, twin.host, ?_, ?_, ?_⟩
  · change ((e.observers.add o).2).prune (Host.owned d.stage.host) =
      ((d.observers.add o).2).prune (Host.owned d.stage.host)
    rw [ObserverList.prune_add, ObserverList.prune_add, twin.living]
  · intro other there
    rcases ObserverList.mem_add.mp there with rfl | old
    · exact new
    · exact twin.sound other old
  · intro other there
    rcases ObserverList.mem_add.mp there with rfl | old
    · exact twin.host.symm ▸ new
    · exact twin.sound' other old

theorem Twin.removeObserver (twin : Twin made d e) (o : ObserverId) :
    Twin made (d.removeObserver o) (e.removeObserver o) := by
  refine ⟨twin.queue, twin.pending, twin.host, ?_,
    fun other there => twin.sound other (ObserverList.mem_remove.mp there).2,
    fun other there => twin.sound' other (ObserverList.mem_remove.mp there).2⟩
  change ((e.observers.remove o).2).prune (Host.owned d.stage.host) =
    ((d.observers.remove o).2).prune (Host.owned d.stage.host)
  rw [ObserverList.prune_remove, ObserverList.prune_remove, twin.living]

theorem Twin.changeHost (twin : Twin made d e) {change : σ → σ}
    (mortal : ∀ h, Mortal made h (change h)) :
    Twin made (d.changeHost change) (e.changeHost change) := by
  have changed := twin.logged [] (mortal d.stage.host)
  have same : (e.changeHost change).stage.host = change d.stage.host := congrArg change twin.host
  exact ⟨twin.queue, twin.pending, same, changed.living, changed.sound,
    fun other there => same ▸ changed.sound' other there⟩

theorem Twin.start (twin : Twin made d e) (id : JobId) : Twin made (d.start id) (e.start id) := by
  unfold Dispatcher.start
  rw [twin.queue]
  cases d.queue.start? id with
  | none => exact twin
  | some queue => exact twin.withQueue queue

theorem Twin.finish (twin : Twin made d e) (engine : Engine) (id : JobId) :
    Twin made (d.finish engine id) (e.finish engine id) := by
  unfold Dispatcher.finish
  rw [twin.queue]
  cases d.queue.finish? (Job.run engine) id with
  | none => exact twin
  | some queue => exact twin.withQueue queue

/-- Twins do the same in every operation, popups apart. -/
theorem perform_together (kept : Stage.Kept (Stage.OnHost (Mortal made) : Stage σ → Stage σ → Prop))
    (engine : Engine) {op : Op σ} (other : op.isPopup = false) (mortal : op.Mortal made)
    (registers : ∀ o, op = .addObserver o → made d.stage.host o) (twin : Twin made d e) :
    Together made d.stage.effects e.stage.effects (perform engine op d) (perform engine op e) := by
  have changed {f : Dispatcher σ → Dispatcher σ}
      (twins : ∀ d e, Twin made d e → Twin made (f d) (f e))
      (silent : ∀ d, (f d).stage.effects = d.stage.effects) :
      Uniform made (do modify f; return .done : Control (Dispatcher σ) Response) :=
    (uniform_modify twins silent).bind fun _ => uniform_pure _
  cases mine : op.call? with
  | some c =>
      rw [perform_call engine mine, perform_call engine mine]
      cases op.refusal? with
      | some p => exact uniform_throw p d e twin
      | none => exact ((uniform_place kept c).bind fun _ => uniform_pure _) d e twin
  | none =>
      cases op with
      | document snapshot url frame =>
          exact ((uniform_post _ _).bind fun _ => uniform_pure _) d e twin
      | popup => cases other
      | addObserver o =>
          exact .ok (twin.addObserver (registers o rfl)) (List.append_nil _).symm
            (List.append_nil _).symm
      | removeObserver o =>
          exact changed (fun _ _ twin => twin.removeObserver o) (fun _ => rfl) d e twin
      | changeHost change =>
          exact changed (fun _ _ twin => twin.changeHost (mortal change rfl)) (fun _ => rfl) d e twin
      | start id =>
          exact changed (fun _ _ twin => twin.start id)
            (fun d => congrArg Stage.effects (start_stage id d)) d e twin
      | finish id =>
          exact changed (fun _ _ twin => twin.finish engine id)
            (fun d => congrArg Stage.effects (finish_stage engine id d)) d e twin
      | next => exact ((uniform_processNext kept).bind fun _ => uniform_pure _) d e twin
      | ready =>
          have ready : Uniform made (processReady : Control (Dispatcher σ) Nat) := by
            intro d e twin
            have unfolded (d : Dispatcher σ) :
                processReady d = processAtMost d.queue.finished.length d := rfl
            rw [unfolded, unfolded, twin.queue]
            exact uniform_processAtMost kept _ d e twin
          exact (ready.bind fun _ => uniform_pure _) d e twin
      | untilIdle =>
          have idle : Uniform made (runUntilIdle : Control (Dispatcher σ) Progress) := by
            intro d e twin
            have unfolded (d : Dispatcher σ) :
                runUntilIdle d = runFor (d.queue.finished.length + 1) d := rfl
            rw [unfolded, unfolded, twin.queue]
            exact uniform_runFor kept _ d e twin
          exact (idle.bind fun _ => uniform_pure _) d e twin
      | complete f => exact ((uniform_complete kept f).bind fun _ => uniform_pure _) d e twin
      | _ => cases mine

end Dispatcher

end FilterDispatch
