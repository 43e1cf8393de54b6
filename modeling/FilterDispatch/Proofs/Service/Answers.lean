import FilterDispatch.Proofs.Service.Ledger

/-!
Answers of a service.  What a call is told was returned by the dispatcher for its command, or was
passed to its callback.
-/

namespace FilterDispatch

theorem mem_repliesOf {effects : List Effect} {call : CallId} {r : Reply} :
    (call, r) ∈ repliesOf effects ↔ ∃ a, r = .answer a ∧ .callback call a ∈ effects := by
  simp only [repliesOf, List.mem_reverse, List.mem_map, List.mem_filterMap, Prod.mk.injEq]
  constructor
  · rintro ⟨⟨call, a⟩, ⟨x, member, found⟩, rfl, rfl⟩
    cases x <;> cases found
    exact ⟨a, rfl, member⟩
  · rintro ⟨a, rfl, member⟩
    exact ⟨(call, a), ⟨_, member, rfl⟩, rfl, rfl⟩

theorem mem_invoked {effects : List Effect} {call : CallId} {a : Answer}
    (told : .callback call a ∈ effects) : call ∈ invoked effects :=
  List.mem_map.mpr ⟨(call, a), List.mem_filterMap.mpr ⟨_, told, rfl⟩, rfl⟩

namespace Service

variable {σ : Type} [Host σ]

/-- The loop took this command when the service was in this state. -/
def Taken (engine : Engine) (s₀ : Service σ) (ms : List (Move σ)) (x : Sent) (u : Service σ) :
    Prop :=
  ∃ before after rest, ms = before ++ .takeCommand :: after ∧ run? engine before s₀ = some u ∧
    u.channel = x :: rest

/-- What a command can be replied to with, when so much has happened. -/
inductive Earned (engine : Engine) (s₀ : Service σ) (ms : List (Move σ)) (effects : List Effect)
    (call : CallId) : Command → Reply → Prop
  | returned {snapshot url frame u r d} :
      Taken engine s₀ ms ⟨call, .popup snapshot url frame⟩ u →
      Dispatcher.popup snapshot url frame u.dispatcher = .ok r d →
      Earned engine s₀ ms effects call (.popup snapshot url frame) (.answer (.result r))
  | passed {command u a} (new : List Effect) : command.asks = true →
      Taken engine s₀ ms ⟨call, command⟩ u →
      effects = u.dispatcher.stage.effects ++ new → .callback call a ∈ new →
      Earned engine s₀ ms effects call command (.answer a)
  | flushed {u} : Taken engine s₀ ms ⟨call, .flush⟩ u → Earned engine s₀ ms effects call .flush .done
  | accepted {command} : command.wantsReply = false →
      Earned engine s₀ ms effects call command .done

/-- The callback of the call was handed to the dispatcher with the call's command. -/
def Asked (engine : Engine) (s₀ : Service σ) (ms : List (Move σ)) (effects : List Effect)
    (call : CallId) : Prop :=
  ∃ command u new, .send call command ∈ ms ∧ command.asks = true ∧
    Taken engine s₀ ms ⟨call, command⟩ u ∧ effects = u.dispatcher.stage.effects ++ new

variable {engine : Engine} {s₀ : Service σ} {ms : List (Move σ)} {s t : Service σ}
  {effects : List Effect}

theorem Taken.append {x : Sent} {u : Service σ} (taken : Taken engine s₀ ms x u)
    (more : List (Move σ)) : Taken engine s₀ (ms ++ more) x u := by
  obtain ⟨before, after, rest, rfl, ran, channel⟩ := taken
  refine ⟨before, after ++ more, rest, ?_, ran, channel⟩
  rw [List.append_assoc, List.cons_append]

theorem Earned.append {call : CallId} {command : Command} {r : Reply}
    (earned : Earned engine s₀ ms effects call command r) (more : List (Move σ))
    (new : List Effect) : Earned engine s₀ (ms ++ more) (effects ++ new) call command r := by
  cases earned with
  | returned taken popped => exact .returned (taken.append more) popped
  | passed earlier asks taken grown told =>
      refine .passed (earlier ++ new) asks (taken.append more) ?_ ?_
      · rw [grown, List.append_assoc]
      · exact List.mem_append_left _ told
  | flushed taken => exact .flushed (taken.append more)
  | accepted silent => exact .accepted silent

theorem Asked.append {call : CallId} (asked : Asked engine s₀ ms effects call)
    (more : List (Move σ)) (new : List Effect) :
    Asked engine s₀ (ms ++ more) (effects ++ new) call := by
  obtain ⟨command, u, earlier, sent, asks, taken, grown⟩ := asked
  refine ⟨command, u, earlier ++ new, List.mem_append_left _ sent, asks, taken.append more, ?_⟩
  rw [grown, List.append_assoc]

theorem Asked.earned {call : CallId} (asked : Asked engine s₀ ms effects call) {new : List Effect}
    {a : Answer} (told : .callback call a ∈ new) : ∃ command, .send call command ∈ ms ∧
      Earned engine s₀ ms (effects ++ new) call command (.answer a) := by
  obtain ⟨command, u, earlier, sent, asks, taken, grown⟩ := asked
  refine ⟨command, sent, .passed (earlier ++ new) asks taken ?_ ?_⟩
  · rw [grown, List.append_assoc]
  · exact List.mem_append_right _ told

/-- Every call that is held, and every reply, goes back to the one command that was sent. -/
structure Origins (engine : Engine) (s₀ : Service σ) (ms : List (Move σ)) (s : Service σ) :
    Prop where
  made : ∀ call command, .send call command ∈ ms → call ∈ s.calls
  sole : ∀ call command command', .send call command ∈ ms → .send call command' ∈ ms →
    command = command'
  waits : ∀ x ∈ s.arriving ++ s.channel, .send x.call x.command ∈ ms
  asked : ∀ call ∈ s.dispatcher.awaited, Asked engine s₀ ms s.dispatcher.stage.effects call
  flushes : ∀ call ∈ s.flushWaiters, .send call .flush ∈ ms ∧
    ∃ u, Taken engine s₀ ms ⟨call, .flush⟩ u
  earned : ∀ call r, (call, r) ∈ s.desk.replies → ∃ command, .send call command ∈ ms ∧
    Earned engine s₀ ms s.dispatcher.stage.effects call command r
  told : ∀ call a, .callback call a ∈ s.dispatcher.stage.effects →
    (call, .answer a) ∈ s.desk.replies

namespace Origins

theorem keep (origins : Origins engine s₀ ms s) (dispatcher : t.dispatcher = s.dispatcher)
    (calls : ∀ call ∈ s.calls, call ∈ t.calls)
    (waits : ∀ x ∈ t.arriving ++ t.channel, x ∈ s.arriving ++ s.channel)
    (flushWaiters : ∀ call ∈ t.flushWaiters, call ∈ s.flushWaiters) : Origins engine s₀ ms t where
  made call command sent := calls call (origins.made call command sent)
  sole := origins.sole
  waits x member := origins.waits x (waits x member)
  asked := dispatcher ▸ origins.asked
  flushes call member := origins.flushes call (flushWaiters call member)
  earned := by
    rw [desk, dispatcher]
    exact origins.earned
  told := by
    rw [desk, dispatcher]
    exact origins.told

theorem append (origins : Origins engine s₀ ms s) {m : Move σ}
    (made : ∀ call command, m = .send call command → call ∈ s.calls)
    (sole : ∀ call command, m = .send call command →
      ∀ command', .send call command' ∉ ms) : Origins engine s₀ (ms ++ [m]) s := by
  have still {call : CallId} {command : Command} (sent : .send call command ∈ ms) :
      .send call command ∈ ms ++ [m] := List.mem_append_left _ sent
  refine ⟨?_, ?_, ?_, ?_, ?_, ?_, origins.told⟩
  · intro call command sent
    rcases List.mem_append.mp sent with before | now
    · exact origins.made call command before
    · exact made call command (List.mem_singleton.mp now).symm
  · intro call command command' sent sent'
    simp only [List.mem_append, List.mem_singleton] at sent sent'
    rcases sent with before | now
    · rcases sent' with before' | now'
      · exact origins.sole call command command' before before'
      · exact absurd before (sole call command' now'.symm command)
    · rcases sent' with before' | now'
      · exact absurd before' (sole call command now.symm command')
      · cases now.trans now'.symm
        rfl
  · intro x member
    exact still (origins.waits x member)
  · intro call member
    simpa using (origins.asked call member).append [m] []
  · intro call member
    obtain ⟨sent, u, taken⟩ := origins.flushes call member
    exact ⟨still sent, u, taken.append [m]⟩
  · intro call r member
    obtain ⟨command, sent, earned⟩ := origins.earned call r member
    exact ⟨command, still sent, by simpa using earned.append [m] []⟩

theorem quiet (origins : Origins engine s₀ ms s) {m : Move σ}
    (silent : m.made? = none) : Origins engine s₀ (ms ++ [m]) s := by
  refine origins.append ?_ ?_
  · intro call command sends
    rw [sends] at silent
    cases silent
  · intro call command sends
    rw [sends] at silent
    cases silent

theorem changeDesk (origins : Origins engine s₀ ms s) {change : Desk σ → Desk σ}
    (new : List (CallId × Reply))
    (puts : (s.changeDesk change).desk.replies = new ++ s.desk.replies)
    (earned : ∀ call r, (call, r) ∈ new → ∃ command, .send call command ∈ ms ∧
      Earned engine s₀ ms s.dispatcher.stage.effects call command r) :
    Origins engine s₀ ms (s.changeDesk change) where
  made := origins.made
  sole := origins.sole
  waits := origins.waits
  asked := origins.asked
  flushes := origins.flushes
  earned call r member := by
    rw [puts] at member
    rcases List.mem_append.mp member with now | before
    · exact earned call r now
    · exact origins.earned call r before
  told call a member := by
    rw [puts]
    exact List.mem_append_right _ (origins.told call a member)

theorem reply (origins : Origins engine s₀ ms s) {call : CallId} {command : Command}
    {r : Reply} (sent : .send call command ∈ ms)
    (earned : Earned engine s₀ ms s.dispatcher.stage.effects call command r) :
    Origins engine s₀ ms (s.reply call r) := by
  apply origins.changeDesk [(call, r)] rfl
  intro other r' member
  cases List.mem_singleton.mp member
  exact ⟨command, sent, earned⟩

/-- What the dispatcher tells a callback is the reply to the command that brought the callback. -/
theorem operate (origins : Origins engine s₀ ms s) (h : s.dispatcher.InStep engine)
    {op : Dispatcher.Op (Desk σ)} (own : op.injects = false)
    (acts : op.changesHost = false)
    (brought : ∀ call ∈ op.callback?, Asked engine s₀ ms s.dispatcher.stage.effects call) :
    Origins engine s₀ ms (s.operate engine op) := by
  obtain ⟨lost, -, -, moved⟩ := (Dispatcher.course engine h.accounted own).custody h.orderly
  obtain ⟨new, grown, replies⟩ := Dispatcher.perform_along Desk.kept engine acts s.dispatcher
  rw [← Dispatcher.step_final] at grown replies
  rw [Dispatcher.effectsSince_eq grown] at moved
  have known : ∀ call ∈ invoked new ++ (Dispatcher.step engine op s.dispatcher).2.awaited,
      Asked engine s₀ ms s.dispatcher.stage.effects call := fun call member => by
    have there := moved.symm.subset (List.mem_append_right lost member)
    rcases List.mem_append.mp there with brings | kept
    · exact brought call (Option.mem_toList.mp brings)
    · exact origins.asked call kept
  rw [operate_eq]
  refine ⟨origins.made, origins.sole, origins.waits, ?_, origins.flushes, ?_, ?_⟩
  · intro call member
    have asked := (known call (List.mem_append_right _ member)).append [] new
    rwa [List.append_nil, ← grown] at asked
  · intro call r member
    rw [desk, replies] at member
    rw [grown]
    rcases List.mem_append.mp member with now | before
    · obtain ⟨a, rfl, told⟩ := mem_repliesOf.mp now
      exact (known call (List.mem_append_left _ (mem_invoked told))).earned told
    · obtain ⟨command, sent, earned⟩ := origins.earned call r before
      exact ⟨command, sent, by simpa using earned.append [] new⟩
  · intro call a member
    rw [grown] at member
    rw [desk, replies]
    rcases List.mem_append.mp member with before | now
    · exact List.mem_append_right _ (origins.told call a before)
    · exact List.mem_append_left _ (mem_repliesOf.mpr ⟨a, rfl, now⟩)

theorem answerFlushes (origins : Origins engine s₀ ms s) : Origins engine s₀ ms s.answerFlushes := by
  rw [answerFlushes_eq]
  split
  · have answered : Origins engine s₀ ms (s.changeDesk (Desk.flushed s.flushWaiters)) := by
      apply origins.changeDesk _ rfl
      intro call r member
      obtain ⟨waiter, waits, same⟩ := List.mem_map.mp (List.mem_reverse.mp member)
      cases same
      obtain ⟨sent, u, taken⟩ := origins.flushes call waits
      exact ⟨.flush, sent, .flushed taken⟩
    exact answered.keep rfl (fun _ member => member) (fun _ member => member) nofun
  · exact origins

theorem handle (origins : Origins engine s₀ ms s) (h : s.dispatcher.InStep engine) {x : Sent}
    {u : Service σ} (sent : .send x.call x.command ∈ ms) (taken : Taken engine s₀ ms x u)
    (same : u.dispatcher = s.dispatcher) : Origins engine s₀ ms (s.handle x) := by
  obtain ⟨call, command⟩ := x
  have handled := handle_cases engine ⟨call, command⟩ s
  generalize s.handle ⟨call, command⟩ = t at handled
  cases handled with
  | operated own acts brings =>
      apply origins.operate h own acts
      intro other brought
      rw [brings] at brought
      split at brought
      · next asks =>
          cases brought
          refine ⟨command, u, [], sent, asks, taken, ?_⟩
          rw [same, List.append_nil]
      · cases brought
  | @answered snapshot url frame r d popup popped =>
      cases popup
      have operated : Origins engine s₀ ms (s.operate engine (.popup snapshot url frame)) :=
        origins.operate h rfl rfl nofun
      rw [← same] at popped
      exact operated.reply sent (.returned taken popped)
  | panicked popup ended => exact origins.operate h rfl rfl nofun
  | waits flush =>
      cases flush
      refine { origins with flushes := ?_ }
      intro other member
      rcases List.mem_append.mp member with before | now
      · exact origins.flushes other before
      · cases List.mem_singleton.mp now
        exact ⟨sent, u, taken⟩
  | stops shutdown =>
      exact origins.keep rfl (fun _ member => member) (fun _ member => member)
        fun _ member => member

theorem enter (origins : Origins engine s₀ ms s) {x : Sent} {rest : List Sent}
    (arriving : s.arriving = x :: rest) : Origins engine s₀ ms (s.enter x rest) := by
  have moved : Origins engine s₀ ms
      { s with arriving := rest, channel := s.channel ++ [x] } := by
    refine origins.keep rfl (fun _ member => member) ?_ fun _ member => member
    intro y member
    rw [arriving]
    simp only [List.mem_append, List.mem_cons, List.not_mem_nil, or_false] at member ⊢
    rcases member with rest | channel | rfl
    · exact .inl (.inr rest)
    · exact .inr channel
    · exact .inl (.inl rfl)
  have sent : .send x.call x.command ∈ ms :=
    origins.waits x (by rw [arriving]; exact List.mem_cons_self)
  rw [Service.enter]
  split
  · exact moved
  · next silent => exact moved.reply sent (.accepted (by simpa using silent))

theorem send (origins : Origins engine s₀ ms s) {call : CallId} (command : Command)
    (fresh : call ∉ s.calls) :
    Origins engine s₀ (ms ++ [.send call command]) (s.send call command) := by
  have known : Origins engine s₀ ms { s with calls := call :: s.calls } :=
    origins.keep rfl (fun _ member => List.mem_cons_of_mem _ member) (fun _ member => member)
      fun _ member => member
  have sent : Origins engine s₀ (ms ++ [.send call command]) { s with calls := call :: s.calls } := by
    refine known.append ?_ ?_
    · intro other command' sends
      cases sends
      exact List.mem_cons_self
    · intro other command' sends later member
      cases sends
      exact fresh (origins.made call later member)
  rw [Service.send]
  split
  · refine { sent with waits := ?_ }
    intro x member
    simp only [List.mem_append, List.mem_singleton] at member
    rcases member with (before | rfl) | channel
    · exact sent.waits x (List.mem_append_left _ before)
    · exact List.mem_append_right _ List.mem_cons_self
    · exact sent.waits x (List.mem_append_right _ channel)
  · exact sent

theorem step {m : Move σ} (origins : Origins engine s₀ ms s) (ran : run? engine ms s₀ = some s)
    (h : s.dispatcher.InStep engine) (step : Step engine s m t) :
    Origins engine s₀ (ms ++ [m]) t := by
  cases step with
  | send fresh some => exact origins.send _ fresh
  | @abandon call open' member =>
      have origins := origins.quiet (m := .abandon call) rfl
      refine origins.keep rfl (fun _ member => member) ?_ fun _ member => member
      intro x member
      exact (List.Sublist.append_right List.filter_sublist _).subset member
  | cloneHandle some =>
      have origins := origins.quiet (m := .cloneHandle) rfl
      exact origins.keep rfl (fun _ member => member) (fun _ member => member) fun _ member => member
  | dropHandle some =>
      have origins := origins.quiet (m := .dropHandle) rfl
      exact origins.keep rfl (fun _ member => member) (fun _ member => member) fun _ member => member
  | enqueue running arriving room =>
      exact (origins.quiet rfl).enter arriving
  | @takeCommand x rest running channel =>
      have taken : Taken engine s₀ (ms ++ [.takeCommand]) x s := ⟨ms, [], rest, rfl, ran, channel⟩
      have origins := origins.quiet (m := .takeCommand) rfl
      have sent : .send x.call x.command ∈ ms ++ [.takeCommand] :=
        origins.waits x (List.mem_append_right _ (channel ▸ List.mem_cons_self))
      have popped : Origins engine s₀ (ms ++ [.takeCommand]) { s with channel := rest } := by
        refine origins.keep rfl (fun _ member => member) ?_ fun _ member => member
        intro y member
        rw [channel]
        exact (List.Sublist.append_left (List.sublist_cons_self _ _) _).subset member
      exact (popped.handle h sent taken rfl).answerFlushes
  | takeOutcome running there =>
      have origins := origins.quiet (m := .takeOutcome) rfl
      have next : Origins engine s₀ (ms ++ [.takeOutcome]) (s.operate engine .next) :=
        origins.operate h rfl rfl nofun
      exact next.answerFlushes
  | hangUp running channel arriving hungUp =>
      have origins := origins.quiet (m := .hangUp) rfl
      exact origins.keep rfl (fun _ member => member) (fun _ member => member) fun _ member => member
  | start => exact (origins.quiet rfl).operate h rfl rfl nofun
  | finish => exact (origins.quiet rfl).operate h rfl rfl nofun
  | changeHost =>
      exact (origins.quiet rfl).changeDesk [] rfl nofun

end Origins

end Service

end FilterDispatch
