import FilterDispatch.Proofs.Service.Runs

/-!
The order of commands.  The loop takes them as they entered the channel, and what has entered and
was not taken is in the channel still.
-/

namespace FilterDispatch.Service

variable {σ : Type} [Host σ]

def moved (engine : Engine) (look : Move σ → Service σ → Option Sent) :
    List (Move σ) → Service σ → List Sent
  | [], _ => []
  | m :: rest, s =>
    (look m s).toList ++
      match s.step? engine m with
      | some t => moved engine look rest t
      | none => []

omit [Host σ] in
def enters? : Move σ → Service σ → Option Sent
  | .enqueue, s => s.arriving.head?
  | _, _ => none

omit [Host σ] in
def takes? : Move σ → Service σ → Option Sent
  | .takeCommand, s => s.channel.head?
  | _, _ => none

/-- The commands that entered the channel, in the order in which they did. -/
def entered (engine : Engine) (ms : List (Move σ)) (s : Service σ) : List Sent :=
  moved engine enters? ms s

/-- The commands that the loop took and handled. -/
def taken (engine : Engine) (ms : List (Move σ)) (s : Service σ) : List Sent :=
  moved engine takes? ms s

variable {engine : Engine} {ms : List (Move σ)} {s₀ s t : Service σ}

theorem moved_append (look : Move σ → Service σ → Option Sent) {first : List (Move σ)}
    (ran : run? engine first s = some t) (later : List (Move σ)) :
    moved engine look (first ++ later) s =
      moved engine look first s ++ moved engine look later t := by
  induction first generalizing s with
  | nil =>
      cases ran
      rfl
  | cons m rest ih =>
      rw [run?] at ran
      rw [List.cons_append, moved, moved]
      cases step : s.step? engine m with
      | none => rw [step] at ran; cases ran
      | some u =>
          rw [step] at ran
          change (look m s).toList ++ moved engine look (rest ++ later) u =
            (look m s).toList ++ moved engine look rest u ++ moved engine look later t
          rw [ih ran, List.append_assoc]

theorem moved_snoc (look : Move σ → Service σ → Option Sent) (ran : run? engine ms s₀ = some s)
    (m : Move σ) :
    moved engine look (ms ++ [m]) s₀ = moved engine look ms s₀ ++ (look m s).toList := by
  rw [moved_append look ran, moved]
  cases s.step? engine m <;> simp [moved]

theorem entered_snoc (ran : run? engine ms s₀ = some s) (m : Move σ) :
    entered engine (ms ++ [m]) s₀ = entered engine ms s₀ ++ (enters? m s).toList :=
  moved_snoc enters? ran m

theorem taken_snoc (ran : run? engine ms s₀ = some s) (m : Move σ) :
    taken engine (ms ++ [m]) s₀ = taken engine ms s₀ ++ (takes? m s).toList :=
  moved_snoc takes? ran m

theorem Taken.mem {x : Sent} {u : Service σ} (was : Taken engine s₀ ms x u) :
    x ∈ taken engine ms s₀ := by
  obtain ⟨before, after, rest, rfl, ran, channel⟩ := was
  rw [taken, moved_append takes? ran, moved, takes?, channel]
  exact List.mem_append_right _ (List.mem_append_left _ List.mem_cons_self)

theorem handle_channel (engine : Engine) (x : Sent) (s : Service σ) :
    (s.handle x).channel = s.channel := by
  have handled := handle_cases engine x s
  generalize s.handle x = t at handled
  cases handled with
  | operated own => rw [operate_eq]
  | answered popup popped =>
      change (s.operate engine _).channel = _
      rw [operate_eq]
  | panicked popup ended => rw [operate_eq]
  | waits flush => rfl
  | stops shutdown => rfl

omit [Host σ] in
theorem answerFlushes_channel (s : Service σ) : s.answerFlushes.channel = s.channel := by
  rw [answerFlushes_eq]
  split <;> rfl

/-- A move takes commands from one end of the channel, or lets one in at the other. -/
theorem Step.channel {m : Move σ} (step : Step engine s m t) :
    (takes? m s).toList ++ t.channel = s.channel ++ (enters? m s).toList := by
  have still {u : Service σ} (same : u.channel = s.channel) :
      u.channel = s.channel ++ [] := by rw [same, List.append_nil]
  cases step with
  | send fresh some =>
      apply still
      rw [Service.send]
      split <;> rfl
  | abandon open' member => exact still rfl
  | cloneHandle some => exact still rfl
  | dropHandle some => exact still rfl
  | @enqueue x rest running arriving room =>
      simp only [takes?, enters?, arriving, Option.toList_none, List.nil_append, List.head?_cons,
        Option.toList_some]
      rw [enter]
      split <;> rfl
  | @takeCommand x rest running channel =>
      simp only [takes?, enters?, channel, Option.toList_none, List.append_nil, List.head?_cons,
        Option.toList_some, List.singleton_append, List.cons.injEq, true_and]
      rw [answerFlushes_channel, handle_channel engine]
  | takeOutcome running there =>
      apply still
      rw [answerFlushes_channel, operate_eq]
  | hangUp running channel arriving hungUp => exact still rfl
  | start =>
      apply still
      rw [operate_eq]
  | finish =>
      apply still
      rw [operate_eq]
  | changeHost => exact still rfl

/-- Commands in the order of the channel: none twice, and none lost. -/
structure Ordered (engine : Engine) (s₀ : Service σ) (ms : List (Move σ)) (s : Service σ) :
    Prop where
  fifo : entered engine ms s₀ = taken engine ms s₀ ++ s.channel
  distinct : ((entered engine ms s₀ ++ s.arriving).map (·.call)).Nodup
  made : ∀ x ∈ entered engine ms s₀ ++ s.arriving, x.call ∈ s.calls

namespace Ordered

theorem snoc (ordered : Ordered engine s₀ ms s) (ran : run? engine ms s₀ = some s) {m : Move σ}
    (step : Step engine s m t)
    (distinct : ((entered engine ms s₀ ++ ((enters? m s).toList ++ t.arriving)).map (·.call)).Nodup)
    (made : ∀ x ∈ entered engine ms s₀ ++ ((enters? m s).toList ++ t.arriving), x.call ∈ t.calls) :
    Ordered engine s₀ (ms ++ [m]) t := by
  have came := entered_snoc ran m
  have went := taken_snoc ran m
  refine ⟨?_, ?_, ?_⟩
  · rw [came, went, ordered.fifo, List.append_assoc, List.append_assoc, step.channel]
  · rwa [came, List.append_assoc]
  · rwa [came, List.append_assoc]

theorem keep (ordered : Ordered engine s₀ ms s) (ran : run? engine ms s₀ = some s) {m : Move σ}
    (step : Step engine s m t) (enters : enters? m s = none)
    (arriving : t.arriving.Sublist s.arriving) (calls : ∀ call ∈ s.calls, call ∈ t.calls) :
    Ordered engine s₀ (ms ++ [m]) t := by
  have fewer := (List.Sublist.refl (entered engine ms s₀)).append arriving
  apply ordered.snoc ran step
  · rw [enters]
    exact (fewer.map _).nodup ordered.distinct
  · rw [enters]
    exact fun x member => calls _ (ordered.made x (fewer.subset member))

theorem step (ordered : Ordered engine s₀ ms s) (ran : run? engine ms s₀ = some s) {m : Move σ}
    (step : Step engine s m t) : Ordered engine s₀ (ms ++ [m]) t := by
  have idle {u : Service σ} (clients : SameClients s u) (moved : Step engine s m u)
      (enters : enters? m s = none) : Ordered engine s₀ (ms ++ [m]) u :=
    ordered.keep ran moved enters (by rw [clients.arriving]) fun call made => by
      rwa [clients.calls]
  cases step with
  | @send call command fresh some =>
      by_cases running : s.isRunning = true
      · have sent := send_of_running call command running
        have more : (enters? (.send call command : Move σ) s).toList ++
            (s.send call command).arriving = s.arriving ++ [⟨call, command⟩] := by
          rw [sent]
          rfl
        apply ordered.snoc ran (.send fresh some)
        · rw [more, ← List.append_assoc, List.map_append]
          refine (List.perm_append_singleton _ _).nodup_iff.mpr (List.nodup_cons.mpr ⟨?_,
            ordered.distinct⟩)
          intro earlier
          obtain ⟨x, member, same⟩ := List.mem_map.mp earlier
          have known := ordered.made x member
          rw [same] at known
          exact fresh known
        · rw [more, ← List.append_assoc, sent]
          intro x member
          rcases List.mem_append.mp member with before | now
          · exact List.mem_cons_of_mem _ (ordered.made x before)
          · cases List.mem_singleton.mp now
            exact List.mem_cons_self
      · have sent := send_of_ended call command running
        refine ordered.keep ran (.send fresh some) rfl ?_ ?_
        · rw [sent]
        · rw [sent]
          exact fun _ made => List.mem_cons_of_mem _ made
  | @abandon call open' member =>
      exact ordered.keep ran (.abandon open' member) rfl List.filter_sublist fun _ made => made
  | cloneHandle some => exact idle ⟨rfl, rfl, rfl⟩ (.cloneHandle some) rfl
  | dropHandle some => exact idle ⟨rfl, rfl, rfl⟩ (.dropHandle some) rfl
  | @enqueue x rest running arriving room =>
      have all : (enters? (.enqueue : Move σ) s).toList ++ (s.enter x rest).arriving =
          s.arriving := by
        rw [enter_arriving, enters?, arriving]
        rfl
      apply ordered.snoc ran (.enqueue running arriving room)
      · rw [all]
        exact ordered.distinct
      · rw [all, enter_calls]
        exact ordered.made
  | @takeCommand x rest running channel =>
      exact idle (command_clients engine x rest s) (.takeCommand running channel) rfl
  | takeOutcome running there => exact idle (outcome_clients engine s) (.takeOutcome running there) rfl
  | hangUp running channel arriving hungUp =>
      exact idle ⟨rfl, rfl, rfl⟩ (.hangUp running channel arriving hungUp) rfl
  | @start id => exact idle (operate_clients engine (.start id) s) .start rfl
  | @finish id => exact idle (operate_clients engine (.finish id) s) .finish rfl
  | changeHost => exact idle ⟨rfl, rfl, rfl⟩ .changeHost rfl

/-- When a command is taken, those that entered before it have been taken. -/
theorem taken_before (ordered : Ordered engine s₀ ms s) {x : Sent} (was : x ∈ taken engine ms s₀)
    {front back : List Sent} (split : entered engine ms s₀ = front ++ x :: back) :
    front ++ [x] <+: taken engine ms s₀ := by
  obtain ⟨earlier, later, same⟩ := List.append_of_mem was
  have both : front ++ x :: back = earlier ++ x :: (later ++ s.channel) := by
    rw [← split, ordered.fifo, same, List.append_assoc, List.cons_append]
  have once : (front ++ x :: back).Nodup := by
    have distinct := (List.nodup_append.mp (List.map_append ▸ ordered.distinct)).1.of_map
    rwa [split] at distinct
  have apart := List.nodup_append.mp once
  have fresh : x ∉ front := fun early => apart.2.2 x early x List.mem_cons_self rfl
  have fresh' : x ∉ back := (List.nodup_cons.mp apart.2.1).1
  obtain ⟨rfl, -⟩ := (List.append_cons_inj_of_notMem fresh fresh').mp both
  exact ⟨later, by rw [same, List.append_assoc, List.singleton_append]⟩

end Ordered

theorem run_ordered (h : s₀.dispatcher.InStep engine) (start : Ordered engine s₀ [] s₀)
    (ran : run? engine ms s₀ = some s) : Ordered engine s₀ ms s :=
  run_induction (P := Ordered engine s₀) start
    (fun _ _ _ _ earlier kept moved =>
      kept.step earlier (step?_cases engine (run_inStep h earlier) moved)) ms s ran

theorem spawn_ordered {maxConcurrent commandBuffer : Nat} {host : σ}
    (spawned : spawn maxConcurrent commandBuffer host = .ok s₀) (engine : Engine) :
    Ordered engine s₀ [] s₀ := by
  obtain ⟨dispatcher, -, rfl⟩ := spawn_eq_ok spawned
  exact ⟨rfl, List.nodup_nil, by simp [entered, moved]⟩

end FilterDispatch.Service
