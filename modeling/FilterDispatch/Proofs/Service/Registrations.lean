import FilterDispatch.Proofs.Dispatcher.Audience
import FilterDispatch.Proofs.Service.Conclusions

/-!
Registrations by command.  Whether an observer hears of a call is settled by the last word about the
observer that the loop has handled when it delivers the outcome of the call.
-/

namespace FilterDispatch

/-- What a command says of this observer: whether it is to be told from now on. -/
def Command.word? (o : ObserverId) : Command → Option Bool
  | .addObserver other => if other = o then some true else none
  | .removeObserver other => if other = o then some false else none
  | _ => none

theorem Command.word?_eq_true {o : ObserverId} {command : Command} :
    command.word? o = some true ↔ command = .addObserver o := by
  cases command <;> simp [word?]

theorem Command.word?_eq_false {o : ObserverId} {command : Command} :
    command.word? o = some false ↔ command = .removeObserver o := by
  cases command <;> simp [word?]

/-- The last of these commands to say anything of this observer, and what it says. -/
def lastWord? (o : ObserverId) (xs : List Sent) : Option Bool :=
  (xs.filterMap fun x => x.command.word? o).getLast?

theorem lastWord?_append (o : ObserverId) (xs ys : List Sent) :
    lastWord? o (xs ++ ys) = (lastWord? o ys).or (lastWord? o xs) := by
  rw [lastWord?, List.filterMap_append, List.getLast?_append]
  rfl

theorem lastWord?_toList (o : ObserverId) (x : Option Sent) :
    lastWord? o x.toList = x.bind fun y => y.command.word? o := by
  cases x with
  | none => rfl
  | some y =>
      simp only [lastWord?, Option.toList_some, List.filterMap_cons, List.filterMap_nil,
        Option.bind_some]
      cases y.command.word? o <;> rfl

/-- A word that nobody takes back is the last one, however often it is repeated. -/
theorem lastWord?_kept {o : ObserverId} {y : Sent} {said : Bool} (xs : List Sent) {later : List Sent}
    (own : y.command.word? o = some said)
    (kept : ∀ z ∈ later, z.command.word? o ≠ some !said) :
    lastWord? o (xs ++ y :: later) = some said := by
  have agree : ∀ b ∈ later.filterMap (fun x => x.command.word? o), b = said := by
    intro b member
    obtain ⟨z, there, word⟩ := List.mem_filterMap.mp member
    have differs := kept z there
    rw [word] at differs
    revert differs
    cases b <;> cases said <;> simp
  have last : lastWord? o (y :: later) = some said := by
    rw [lastWord?, List.filterMap_cons, own]
    simp only [List.getLast?_cons]
    cases repeated : (later.filterMap fun x => x.command.word? o).getLast? with
    | none => rfl
    | some b => rw [agree b (List.mem_of_getLast? repeated)]; rfl
  rw [lastWord?_append, last]
  rfl

theorem Sent.register (o : ObserverId) {σ : Type} (x : Sent) (l : ObserverList) :
    ((x.op? : Option (Dispatcher.Op (Desk σ))).elim l (·.register l)).contains o =
      (x.command.word? o).getD (l.contains o) := by
  obtain ⟨call, command⟩ := x
  cases command with
  | addObserver other =>
      rw [Bool.eq_iff_iff]
      simp only [op?, Option.elim_some, Dispatcher.Op.register, ObserverList.contains,
        List.contains_iff_mem, ObserverList.mem_add, Command.word?]
      by_cases same : other = o <;> simp [same]
  | removeObserver other =>
      rw [Bool.eq_iff_iff]
      simp only [op?, Option.elim_some, Dispatcher.Op.register, ObserverList.contains,
        List.contains_iff_mem, ObserverList.mem_remove, Command.word?]
      by_cases same : other = o <;> simp [same]
  | _ => rfl

namespace Service

variable {σ : Type}

/-- A move registers or removes an observer as the command says that it takes, and only so. -/
theorem Move.register (o : ObserverId) (m : Move σ) (s : Service σ) (l : ObserverList) :
    ((m.op? s).elim l (·.register l)).contains o =
      ((takes? m s).bind fun x => x.command.word? o).getD (l.contains o) := by
  cases m with
  | takeCommand =>
      rw [op?, takes?]
      cases s.channel with
      | nil => rfl
      | cons x rest => exact x.register o l
  | _ => rfl

variable [Host σ] {engine : Engine} {m : Move σ} {ms : List (Move σ)} {s₀ s t u v : Service σ}
  {o : ObserverId} {x y : Sent}

/-- The desks at which the passes of a move begin. -/
def Move.passStarts (m : Move σ) (s : Service σ) : List (Desk σ) :=
  (m.op? s).elim [] (·.passStarts s.dispatcher)

theorem Step.observers (step : Step engine s m t) (h : s.dispatcher.InStep engine) :
    t.dispatcher.observers =
      ((m.op? s).elim s.dispatcher.observers (·.register s.dispatcher.observers)).sweep
        (m.passStarts s) := by
  obtain ⟨change, same⟩ := step.act
  rw [same, Move.passStarts]
  change (m.act engine s).observers = _
  rw [Move.act]
  cases m.op? s with
  | none => rfl
  | some op => exact Dispatcher.step_observers engine op h.accounted

/-- The owner of an observer keeps it alive whenever a pass begins. -/
def Attended (engine : Engine) (s₀ : Service σ) (ms : List (Move σ)) (o : ObserverId) : Prop :=
  ∀ first m u v, Makes engine s₀ ms first m u v →
    ∀ desk ∈ m.passStarts u, Host.owned desk.host o = true

theorem Step.contains (step : Step engine s m t) (h : s.dispatcher.InStep engine)
    (attended : ∀ desk ∈ m.passStarts s, Host.owned desk.host o = true) :
    t.dispatcher.observers.contains o =
      ((takes? m s).bind fun x => x.command.word? o).getD (s.dispatcher.observers.contains o) := by
  rw [← Move.register, step.observers h, Bool.eq_iff_iff]
  simp only [ObserverList.contains, List.contains_iff_mem, ObserverList.mem_sweep]
  refine and_iff_left fun desk member => ?_
  simp only [ObserverList.alive, Bool.or_eq_true]
  exact .inl (attended desk member)

theorem run_contains (h : s₀.dispatcher.InStep engine) (empty : s₀.dispatcher.observers = {})
    (ran : run? engine ms s₀ = some s) (attended : Attended engine s₀ ms o) :
    s.dispatcher.observers.contains o = true ↔ lastWord? o (taken engine ms s₀) = some true := by
  refine run_induction (P := fun ms s => Attended engine s₀ ms o →
    (s.dispatcher.observers.contains o = true ↔ lastWord? o (taken engine ms s₀) = some true))
    ?_ ?_ ms s ran attended
  · intro _
    rw [empty]
    simp [ObserverList.contains, taken, moved, lastWord?]
  · intro ms s m t earlier kept moved attended
    have there := run_inStep h earlier
    have now := (step?_cases engine there moved).contains there
      (attended ms m s t (makes_last earlier moved))
    rw [taken_snoc earlier, lastWord?_append, lastWord?_toList, now]
    cases (takes? m s).bind fun x => x.command.word? o with
    | some said => simp
    | none => exact kept fun first m u v makes => attended first m u v (makes.append _)

theorem run_distinct (h : s₀.dispatcher.InStep engine) (empty : s₀.dispatcher.observers = {})
    (ran : run? engine ms s₀ = some s) : s.dispatcher.observers.entries.Nodup := by
  refine run_induction (P := fun _ s => s.dispatcher.observers.entries.Nodup) ?_ ?_ ms s ran
  · rw [empty]
    exact List.nodup_nil
  · intro ms s m t earlier distinct moved
    have there := run_inStep h earlier
    obtain ⟨change, same⟩ := (step?_cases engine there moved).act
    rw [same]
    change (m.act engine s).observers.entries.Nodup
    rw [Move.act]
    cases m.op? s with
    | none => exact distinct
    | some op => exact Dispatcher.step_distinct engine op there.accounted distinct

theorem Step.announces (step : Step engine s m t) (attributed : Attributed engine s₀ ms s) :
    (∃ x, Concludes engine s₀ ms s x m) ∨ s.dispatcher.Silent t.dispatcher := by
  obtain ⟨change, same⟩ := step.act
  rw [same]
  change _ ∨ s.dispatcher.Silent (m.act engine s)
  rw [Move.act]
  cases own : m.op? s with
  | none => exact .inr (Dispatcher.silent_of_same rfl)
  | some op =>
      rcases Move.op?_cases own with
        ⟨call, snapshot, url, frame, takes, -⟩ | ⟨rfl, -⟩ | ⟨own, stays, other⟩
      · exact .inl ⟨_, .inline takes rfl⟩
      · cases step with
        | takeOutcome running there => exact .inl (attributed.concludes there)
      · exact .inr (Dispatcher.step_silent engine own stays other)

theorem Step.heeds (step : Step engine s m t) (h : s.dispatcher.InStep engine)
    (calm : ∀ op, m.op? s = some op → ¬s.dispatcher.Upset op) :
    s.dispatcher.Heeds t.dispatcher := by
  obtain ⟨change, same⟩ := step.act
  rw [same]
  change s.dispatcher.Heeds (m.act engine s)
  rw [Move.act]
  cases own : m.op? s with
  | none => exact (Dispatcher.silent_of_same rfl).heeds
  | some op =>
      have calm := calm op own
      rcases Move.op?_cases own with
        ⟨call, snapshot, url, frame, -, rfl⟩ | ⟨-, rfl⟩ | ⟨own, stays, other⟩
      · change s.dispatcher.Heeds (Dispatcher.step engine _ s.dispatcher).2
        rw [Dispatcher.step_map (m := Dispatcher.popup snapshot url frame)
          (f := Dispatcher.Response.result) rfl]
        exact Dispatcher.popup_heeds calm
      · exact Dispatcher.next_heeds engine h.accounted calm
      · exact (Dispatcher.step_silent engine own stays other).heeds

theorem Concludes.wordless (concludes : Concludes engine s₀ ms s x m) (o : ObserverId) :
    ((takes? m s).bind fun y => y.command.word? o) = none := by
  cases concludes with
  | inline takes returns =>
      rw [takes]
      obtain ⟨call, command⟩ := x
      cases command <;> first | rfl | cases returns
  | outcome finished posted => rfl

/-- A word that entered the channel before a call, and that nobody has taken back by then, is the last
one when the call is concluded. -/
theorem Concludes.lastWord (concludes : Concludes engine s₀ ms s x m)
    (ran : run? engine ms s₀ = some s) (moved : s.step? engine m = some t)
    (ordered : Ordered engine s₀ ms s) (ordered' : Ordered engine s₀ (ms ++ [m]) t)
    {front back : List Sent} (split : entered engine ms s₀ = front ++ y :: back) (behind : x ∈ back)
    {said : Bool} (own : y.command.word? o = some said)
    (kept : ∀ z ∈ back, z ∈ Service.taken engine ms s₀ → z.command.word? o ≠ some !said) :
    lastWord? o (Service.taken engine ms s₀) = some said := by
  obtain ⟨later, handled, among⟩ := concludes.after ran moved ordered ordered' split behind
  rw [handled] at kept ⊢
  exact lastWord?_kept front own fun z member =>
    kept z (among.subset member) (List.mem_append_right _ (List.mem_cons_of_mem _ member))

/-- An observer hears all that a move announces, or nothing, according to the last word about it. -/
theorem run_heard_eq (h : s₀.dispatcher.InStep engine) (empty : s₀.dispatcher.observers = {})
    (ran : run? engine ms s₀ = some s) (moved : s.step? engine m = some t)
    (attributed : Attributed engine s₀ ms s)
    (calm : ∀ op, m.op? s = some op → ¬s.dispatcher.Upset op)
    (attended : Attended engine s₀ (ms ++ [m]) o) :
    heard o (Dispatcher.effectsSince s.dispatcher t.dispatcher) =
      if lastWord? o (taken engine ms s₀) = some true then
        announced (Dispatcher.effectsSince s.dispatcher t.dispatcher) else [] := by
  have there := run_inStep h ran
  have step := step?_cases engine there moved
  rcases step.announces attributed with ⟨x, concludes⟩ | muted
  · -- the command that is handled now, if any, says nothing of observers: what was said before holds
    have ran' := run?_snoc ran moved
    have known := run_contains h empty ran' attended
    rw [taken_snoc ran, lastWord?_append, lastWord?_toList, concludes.wordless o,
      Option.none_or] at known
    rw [(step.heeds there calm).heard_eq (run_distinct h empty ran') o]
    exact if_congr (List.contains_iff_mem.symm.trans known) rfl rfl
  · rw [heard_muted muted, announced_muted muted, ite_self]

/-- Who asks for nothing but to be let in is done when the command is in the channel. -/
theorem run_accepted (h : s₀.dispatcher.InStep engine) (ran : run? engine ms s₀ = some s) :
    ∀ y ∈ entered engine ms s₀, y.command.wantsReply = false →
      (y.call, .done) ∈ s.desk.replies := by
  refine run_induction (P := fun ms s => ∀ y ∈ entered engine ms s₀,
    y.command.wantsReply = false → (y.call, .done) ∈ s.desk.replies) ?_ ?_ ms s ran
  · exact fun y there => nomatch there
  · intro ms s m t earlier kept moved y there silent
    have step := step?_cases engine (run_inStep h earlier) moved
    rw [entered_snoc earlier] at there
    rcases List.mem_append.mp there with before | now
    · exact step.replies.subset (kept y before silent)
    · cases step with
      | @enqueue x rest running arriving room =>
          rw [enters?, arriving] at now
          cases List.mem_singleton.mp now
          rw [enter, if_neg (by simp [silent])]
          exact List.mem_cons_self
      | _ => cases now

omit [Host σ] in
theorem spawn_vacant {maxConcurrent commandBuffer : Nat} {host : σ}
    (spawned : spawn maxConcurrent commandBuffer host = .ok s₀) :
    s₀.dispatcher.observers = {} ∧ s₀.dispatcher.queue.outstanding = [] := by
  obtain ⟨dispatcher, made, rfl⟩ := spawn_eq_ok spawned
  obtain ⟨start, none, -⟩ := Dispatcher.new_inStep ⟨fun _ => .ok .ignored⟩ made
  have keys := start.keys
  rw [none] at keys
  exact ⟨Dispatcher.new_observers made, keys.nil_eq.symm⟩

/-- In the move that follows these the journal grows by this much: what the observer hears of it. -/
structure Notified (engine : Engine) (s₀ : Service σ) (ms : List (Move σ)) (u : Service σ)
    (m : Move σ) (o : ObserverId) (new : List Effect) : Prop where
  registered : lastWord? o (taken engine ms s₀) = some true → heard o new = announced new
  unregistered : lastWord? o (taken engine ms s₀) ≠ some true → heard o new = []
  once : ∀ n ∈ announced new, announced new = [n] ∧ ∃ x, Concludes engine s₀ ms u x m
  sole : ∀ x, Concludes engine s₀ ms u x m →
    ¬Concluded engine s₀ ms x ∧ ∀ y, Concludes engine s₀ ms u y m → y = x
  added : ∀ x call front back, Concludes engine s₀ ms u x m →
    entered engine ms s₀ = front ++ ⟨call, .addObserver o⟩ :: back → x ∈ back →
    (∀ y ∈ back, y ∈ taken engine ms s₀ → y.command ≠ .removeObserver o) →
      heard o new = announced new
  removed : ∀ x call front back, Concludes engine s₀ ms u x m →
    entered engine ms s₀ = front ++ ⟨call, .removeObserver o⟩ :: back → x ∈ back →
    (∀ y ∈ back, y.command ≠ .addObserver o) → heard o new = []
  accepted : ∀ y ∈ entered engine ms s₀, y.command.wantsReply = false →
    u.callStatus y.call = .answered .done

/-- Whether an observer hears of a call is settled by the last command about the observer that was
handled before the outcome of the call is delivered. -/
theorem registrations_ordered {maxConcurrent commandBuffer : Nat} {host : σ}
    (spawned : spawn maxConcurrent commandBuffer host = .ok s₀)
    (ran : run? engine ms s₀ = some u) (moved : u.step? engine m = some v)
    (calm : ∀ op, m.op? u = some op → ¬u.dispatcher.Upset op)
    (attended : Attended engine s₀ (ms ++ [m]) o) :
    Notified engine s₀ ms u m o (Dispatcher.effectsSince u.dispatcher v.dispatcher) := by
  obtain ⟨h, ledger, -⟩ := spawn_sound spawned engine
  obtain ⟨empty, idle⟩ := spawn_vacant spawned
  have ordered₀ := spawn_ordered spawned engine
  have there := run_inStep h ran
  have step := step?_cases engine there moved
  have ordered := run_ordered h ordered₀ ran
  have ordered' := ordered.step ran step
  have attributed := run_attributed h ordered₀ idle ran
  have settled := run_heard_eq h empty ran moved attributed calm attended
  refine ⟨fun last => settled.trans (if_pos last), fun last => settled.trans (if_neg last),
    ?_, ?_, ?_, ?_, ?_⟩
  · intro n said
    rcases step.announces attributed with concludes | muted
    · refine ⟨?_, concludes⟩
      rcases (step.heeds there calm).announced_cases with nothing | ⟨n', one⟩
      · rw [nothing] at said
        cases said
      · rw [one] at said ⊢
        rw [List.mem_singleton.mp said]
    · rw [announced_muted muted] at said
      cases said
  · intro x concludes
    exact ⟨attributed.once ran ordered' concludes, fun y other => attributed.unique other concludes⟩
  · intro x call front back concludes split behind stays
    have last := concludes.lastWord ran moved ordered ordered' split behind
      (Command.word?_eq_true.mpr rfl) fun y member handled word =>
        stays y member handled (Command.word?_eq_false.mp word)
    exact settled.trans (if_pos last)
  · intro x call front back concludes split behind stays
    have last := concludes.lastWord ran moved ordered ordered' split behind
      (Command.word?_eq_false.mpr rfl) fun y member _ word =>
        stays y member (Command.word?_eq_true.mp word)
    exact settled.trans (if_neg (by simp [last]))
  · intro y entered silent
    have done := run_accepted h ran y entered silent
    exact callStatus_eq_answered.mpr
      ((Desk.reply?_eq_some (run_ledger h ledger ran).replies_distinct).mpr done)

/-- The observer that was added before a document check is told of its outcome. -/
theorem document_heard :
    let live : LiveFrame := ⟨⟨1, 2⟩, ⟨"https://a.example/"⟩⟩
    let engine : Engine := ⟨fun _ => .ok .ignored⟩
    let snapshot : Snapshot := [⟨0, fun _ => .ok (some ⟨"https://list.example/"⟩)⟩]
    let ms : List (Move Register) :=
      [.send 5 (.addObserver 3), .send 6 (.document snapshot ⟨"https://b.example/"⟩ live.id),
        .enqueue, .takeCommand, .enqueue, .takeCommand, .start 0, .finish 0]
    let s₀ : Service Register :=
      { dispatcher := { queue := { free := 1 }, stage := { host := { host := ⟨[live]⟩ } } }
        capacity := 1 }
    ∃ u v, run? engine ms s₀ = some u ∧ u.step? engine .takeOutcome = some v ∧
      Notified engine s₀ ms u .takeOutcome 3 (Dispatcher.effectsSince u.dispatcher v.dispatcher) ∧
      (heard 3 (Dispatcher.effectsSince u.dispatcher v.dispatcher)).length = 1 := by
  intro live engine snapshot ms s₀
  have outcome : ((run? engine ms s₀).bind fun u => (u.step? engine .takeOutcome).map fun v =>
      (heard 3 (Dispatcher.effectsSince u.dispatcher v.dispatcher)).length) = some 1 := by
    decide +kernel
  obtain ⟨u, ran, after⟩ := Option.bind_eq_some_iff.mp outcome
  obtain ⟨v, moved, once⟩ := Option.map_eq_some_iff.mp after
  have spawned : spawn 1 1 ⟨[live]⟩ = .ok s₀ := rfl
  exact ⟨u, v, ran, moved, registrations_ordered spawned ran moved
    (fun op _ => Dispatcher.not_upset (fun o n h => ⟨h, rfl⟩) u.dispatcher op)
    (fun _ _ _ _ _ desk _ => rfl), once⟩

end Service

end FilterDispatch
