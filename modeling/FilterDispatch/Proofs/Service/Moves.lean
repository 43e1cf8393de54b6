import FilterDispatch.Proofs.Dispatcher.Custody
import FilterDispatch.Proofs.Service.Desk
import FilterDispatch.Service.Run

/-!
Moves of a service.  Whatever its loop does to the dispatcher is an operation of the dispatcher; the
rest moves commands and replies from one place to the next.
-/

namespace FilterDispatch

variable {σ : Type}

/-- The desk with flushes answered, each in its turn. -/
def Desk.flushed (waiters : List CallId) (d : Desk σ) : Desk σ :=
  { d with replies := (waiters.map fun call => (call, Reply.done)).reverse ++ d.replies }

/-- Whether the reply is made by a callback. -/
def Command.asks : Command → Bool
  | .request .. | .socketUpgrade .. | .response .. | .rewrite .. => true
  | _ => false

/-- Whether the reply is what the dispatcher returns. -/
def Command.returns : Command → Bool
  | .popup .. => true
  | _ => false

/-- What the loop has its dispatcher do for a command. -/
def Sent.op? (x : Sent) : Option (Dispatcher.Op (Desk σ)) :=
  match x.command with
  | .popup snapshot url frame => some (.popup snapshot url frame)
  | .request snapshot url contentType frame =>
    some (.request snapshot url contentType frame x.call)
  | .socketUpgrade snapshot url frame => some (.socketUpgrade snapshot url frame x.call)
  | .response snapshot url contentType frame headers =>
    some (.response snapshot url contentType frame headers x.call)
  | .document snapshot url frame => some (.document snapshot url frame)
  | .rewrite snapshot url frame => some (.rewrite snapshot url frame x.call)
  | .addObserver o => some (.addObserver o)
  | .removeObserver o => some (.removeObserver o)
  | .flush | .shutdown => none

namespace Service

def Move.made? : Move σ → Option CallId
  | .send call _ => some call
  | _ => none

def Move.gaveUp? : Move σ → Option CallId
  | .abandon call => some call
  | _ => none

theorem send_of_running (call : CallId) (command : Command) {s : Service σ}
    (running : s.isRunning = true) : s.send call command =
      { s with calls := call :: s.calls, arriving := s.arriving ++ [⟨call, command⟩] } :=
  if_pos running

theorem send_of_ended (call : CallId) (command : Command) {s : Service σ}
    (ended : ¬s.isRunning = true) : s.send call command = { s with calls := call :: s.calls } :=
  if_neg ended

theorem send_calls (call : CallId) (command : Command) (s : Service σ) :
    (s.send call command).calls = call :: s.calls := by
  rw [send]
  split <;> rfl

theorem send_abandoned (call : CallId) (command : Command) (s : Service σ) :
    (s.send call command).abandoned = s.abandoned := by
  rw [send]
  split <;> rfl

theorem send_isRunning (call : CallId) (command : Command) (s : Service σ) :
    (s.send call command).isRunning = s.isRunning := by
  rw [send]
  split <;> rfl

/-- The service after its dispatcher did something; a panic ends the loop. -/
def follow {α : Type} (s : Service σ) : Except Panic α × Dispatcher (Desk σ) → Service σ
  | (.ok _, dispatcher) => { s with dispatcher }
  | (.error p, dispatcher) => { s with dispatcher, status := .panicked p }

variable [Host σ] (engine : Engine)

def operate (op : Dispatcher.Op (Desk σ)) (s : Service σ) : Service σ :=
  s.follow (Dispatcher.step engine op s.dispatcher)

theorem operate_eq (op : Dispatcher.Op (Desk σ)) (s : Service σ) :
    s.operate engine op =
      { s with
        dispatcher := (Dispatcher.step engine op s.dispatcher).2
        status := match (Dispatcher.step engine op s.dispatcher).1 with
          | .ok _ => s.status
          | .error p => .panicked p } := by
  unfold operate
  cases Dispatcher.step engine op s.dispatcher with
  | mk r d =>
      cases r with
      | ok v => rfl
      | error p => rfl

theorem operate_running {op : Dispatcher.Op (Desk σ)} {s : Service σ}
    (running : (s.operate engine op).isRunning = true) :
    s.isRunning = true ∧ ∃ v, (Dispatcher.step engine op s.dispatcher).1 = .ok v := by
  rw [operate_eq] at running
  cases outcome : (Dispatcher.step engine op s.dispatcher).1 with
  | ok v =>
      simp only [outcome] at running
      exact ⟨running, v, rfl⟩
  | error p =>
      simp only [outcome] at running
      cases of_decide_eq_true running

theorem operate_start (id : JobId) (s : Service σ) :
    s.operate engine (.start id) = { s with dispatcher := s.dispatcher.start id } := by
  have performed : Dispatcher.perform engine (.start id) s.dispatcher =
      .ok .done (s.dispatcher.start id) := rfl
  rw [operate_eq, Dispatcher.step_of_ok performed]

theorem operate_finish (id : JobId) (s : Service σ) :
    s.operate engine (.finish id) = { s with dispatcher := s.dispatcher.finish engine id } := by
  have performed : Dispatcher.perform engine (.finish id) s.dispatcher =
      .ok .done (s.dispatcher.finish engine id) := rfl
  rw [operate_eq, Dispatcher.step_of_ok performed]

theorem onDispatcher_eq {op : Dispatcher.Op (Desk σ)} (m : Control (Dispatcher (Desk σ)) Unit)
    (same : Dispatcher.perform engine op = (do m; return .done)) (s : Service σ) :
    s.onDispatcher m = s.operate engine op := by
  unfold operate onDispatcher
  cases h : m s.dispatcher with
  | ok _ d =>
      rw [Dispatcher.step_of_ok ((congrFun same _).trans (Control.bind_of_ok _ h))]
      rfl
  | error p d =>
      rw [Dispatcher.step_of_error ((congrFun same _).trans (Control.bind_of_error _ h))]
      rfl

/-- All that the handling of a command can come to. -/
inductive Handled (x : Sent) (s : Service σ) : Service σ → Prop
  | operated {op} : op.injects = false → op.changesHost = false →
      op.callback? = (if x.command.asks then some x.call else none) →
      x.command.wantsReply = x.command.asks → op.drains = false →
      Handled x s (s.operate engine op)
  | answered {snapshot url frame r d} : x.command = .popup snapshot url frame →
      Dispatcher.popup snapshot url frame s.dispatcher = .ok r d →
      Handled x s
        ((s.operate engine (.popup snapshot url frame)).reply x.call (.answer (.result r)))
  | panicked {snapshot url frame} : x.command = .popup snapshot url frame →
      (s.operate engine (.popup snapshot url frame)).isRunning = false →
      Handled x s (s.operate engine (.popup snapshot url frame))
  | waits : x.command = .flush → Handled x s { s with flushWaiters := s.flushWaiters ++ [x.call] }
  | stops : x.command = .shutdown → Handled x s { s with status := .stopped }

section Popup

variable {snapshot : Snapshot} {url : Url} {frame : FrameId} {s : Service σ}
  {d : Dispatcher (Desk σ)}

theorem operate_popup_ok {r : MatchResult}
    (popped : Dispatcher.popup snapshot url frame s.dispatcher = .ok r d) :
    s.operate engine (.popup snapshot url frame) = { s with dispatcher := d } := by
  have performed : Dispatcher.perform engine (.popup snapshot url frame) s.dispatcher =
      .ok (.result r) d := Control.bind_of_ok _ popped
  rw [operate_eq, Dispatcher.step_of_ok performed]

theorem operate_popup_error {p : Panic}
    (popped : Dispatcher.popup snapshot url frame s.dispatcher = .error p d) :
    s.operate engine (.popup snapshot url frame) =
      { s with dispatcher := d, status := .panicked p } := by
  have performed : Dispatcher.perform engine (.popup snapshot url frame) s.dispatcher =
      .error p d := Control.bind_of_error _ popped
  rw [operate_eq, Dispatcher.step_of_error performed]

end Popup

theorem popup_handled (call : CallId) (snapshot : Snapshot) (url : Url) (frame : FrameId)
    (s : Service σ) : Handled engine ⟨call, .popup snapshot url frame⟩ s
      (s.popup call snapshot url frame) := by
  unfold popup
  cases h : Dispatcher.popup snapshot url frame s.dispatcher with
  | ok r d =>
      have answered : Handled engine ⟨call, .popup snapshot url frame⟩ s _ := .answered rfl h
      rwa [operate_popup_ok engine h] at answered
  | error p d =>
      have operated := operate_popup_error engine h
      have ended : (s.operate engine (.popup snapshot url frame)).isRunning = false := by
        rw [operated]
        rfl
      have panicked : Handled engine ⟨call, .popup snapshot url frame⟩ s _ := .panicked rfl ended
      rwa [operated] at panicked

theorem handle_of_op {x : Sent} {op : Dispatcher.Op (Desk σ)} (own : x.op? = some op)
    (other : x.command.returns = false) (s : Service σ) :
    s.handle x = s.operate engine op := by
  obtain ⟨call, command⟩ := x
  cases command with
  | popup snapshot url frame => cases other
  | request snapshot url contentType frame =>
      cases own
      exact onDispatcher_eq engine (Dispatcher.request snapshot url contentType frame call) rfl s
  | socketUpgrade snapshot url frame =>
      cases own
      exact onDispatcher_eq engine (Dispatcher.socketUpgrade snapshot url frame call) rfl s
  | response snapshot url contentType frame headers =>
      cases own
      exact onDispatcher_eq engine (Dispatcher.response snapshot url contentType frame headers call) rfl s
  | document snapshot url frame =>
      cases own
      exact onDispatcher_eq engine (Dispatcher.checkDocument snapshot url frame) rfl s
  | rewrite snapshot url frame =>
      cases own
      exact onDispatcher_eq engine (Dispatcher.rewrite snapshot url frame call) rfl s
  | addObserver o =>
      cases own
      exact onDispatcher_eq engine (modify (Dispatcher.addObserver o)) rfl s
  | removeObserver o =>
      cases own
      exact onDispatcher_eq engine (modify (Dispatcher.removeObserver o)) rfl s
  | flush => cases own
  | shutdown => cases own

/-- To handle a command is to operate the dispatcher and, at most, to reply. -/
theorem handle_operate {x : Sent} {op : Dispatcher.Op (Desk σ)} (own : x.op? = some op)
    (s : Service σ) : ∃ change : Desk σ → Desk σ, (∀ d, (change d).host = d.host) ∧
      s.handle x = (s.operate engine op).changeDesk change := by
  cases returns : x.command.returns with
  | false => exact ⟨id, fun _ => rfl, handle_of_op engine own returns s⟩
  | true =>
      obtain ⟨call, command⟩ := x
      cases command with
      | popup snapshot url frame =>
          cases own
          simp only [handle, popup]
          cases h : Dispatcher.popup snapshot url frame s.dispatcher with
          | ok r d =>
              rw [operate_popup_ok engine h]
              exact ⟨Desk.put call (.answer (.result r)), fun _ => rfl, rfl⟩
          | error p d =>
              rw [operate_popup_error engine h]
              exact ⟨id, fun _ => rfl, rfl⟩
      | _ => cases returns

theorem handle_cases (x : Sent) (s : Service σ) : Handled engine x s (s.handle x) := by
  have operated (op : Dispatcher.Op (Desk σ)) (same : s.handle x = s.operate engine op)
      (own : op.injects = false) (acts : op.changesHost = false)
      (brings : op.callback? = if x.command.asks then some x.call else none)
      (wants : x.command.wantsReply = x.command.asks) (stays : op.drains = false) :
      Handled engine x s (s.handle x) := by
    rw [same]
    exact .operated own acts brings wants stays
  obtain ⟨call, command⟩ := x
  cases command with
  | popup snapshot url frame => exact popup_handled engine call snapshot url frame s
  | flush => exact .waits rfl
  | shutdown => exact .stops rfl
  | _ => exact operated _ (handle_of_op engine rfl rfl s) rfl rfl rfl rfl rfl

theorem operate_next {s : Service σ} (accounted : s.dispatcher.queue.Accounted)
    {f : Finished JobOutput} {queue : WorkQueue Job JobOutput}
    (found : s.dispatcher.queue.tryNext = some (f, queue)) :
    ({ s with dispatcher := { s.dispatcher with queue } } : Service σ).onDispatcher
      (Dispatcher.complete f) = s.operate engine .next := by
  have drained := Dispatcher.processNext_of_some accounted found
  unfold operate onDispatcher
  cases completed : Dispatcher.complete f { s.dispatcher with queue } with
  | ok _ d =>
      rw [Control.bind_of_ok _ completed] at drained
      have performed : Dispatcher.perform engine .next s.dispatcher =
          .ok (.progress .delivered) d := Control.bind_of_ok _ drained
      rw [Dispatcher.step_of_ok performed]
      rfl
  | error p d =>
      rw [Control.bind_of_error _ completed] at drained
      have performed : Dispatcher.perform engine .next s.dispatcher = .error p d :=
        Control.bind_of_error _ drained
      rw [Dispatcher.step_of_error performed]
      rfl

theorem takeOutcome?_eq_some {s t : Service σ} (accounted : s.dispatcher.queue.Accounted) :
    s.takeOutcome? = some t ↔ s.isRunning = true ∧ s.dispatcher.queue.finished ≠ [] ∧
      t = (s.operate engine .next).answerFlushes := by
  unfold takeOutcome?
  by_cases running : s.isRunning = true
  · rw [if_pos running, accounted.next_eq]
    cases found : s.dispatcher.queue.tryNext with
    | none =>
        have empty := WorkQueue.tryNext_eq_none.mp found
        by_cases idle : s.dispatcher.queue.inFlight = 0 <;> simp [idle, empty]
    | some taken =>
        obtain ⟨f, queue⟩ := taken
        have there : s.dispatcher.queue.finished ≠ [] := fun empty => by
          rw [WorkQueue.tryNext_eq_none.mpr empty] at found
          cases found
        have same := operate_next engine accounted found
        simp only [same, Option.some.injEq]
        constructor
        · rintro rfl
          exact ⟨running, there, rfl⟩
        · rintro ⟨-, -, rfl⟩
          rfl
  · simp [running]

omit [Host σ] in
theorem foldl_reply (waiters : List CallId) (s : Service σ) :
    waiters.foldl (fun s call => s.reply call .done) s = s.changeDesk (Desk.flushed waiters) := by
  induction waiters generalizing s with
  | nil => rfl
  | cons call rest ih =>
      rw [List.foldl_cons, ih]
      have one (d : Desk σ) : (d.put call .done).flushed rest = d.flushed (call :: rest) := by
        simp [Desk.flushed, Desk.put]
      simp only [reply, changeDesk, Dispatcher.changeHost, one]

omit [Host σ] in
theorem answerFlushes_eq (s : Service σ) :
    s.answerFlushes = if s.isRunning = true ∧ s.dispatcher.inFlight = 0 then
      { s.changeDesk (Desk.flushed s.flushWaiters) with flushWaiters := [] }
    else s := by
  unfold answerFlushes
  by_cases idle : s.isRunning = true ∧ s.dispatcher.inFlight = 0
  · rw [if_pos idle, if_pos (by simp [idle]), foldl_reply]
  · rw [if_neg idle, if_neg (by simpa using idle)]

omit [Host σ] in
theorem answerFlushes_desk (s : Service σ) : ∃ change : Desk σ → Desk σ,
    (∀ d, (change d).host = d.host) ∧
      s.answerFlushes.dispatcher = s.dispatcher.changeHost change := by
  rw [answerFlushes_eq]
  split
  · exact ⟨Desk.flushed s.flushWaiters, fun _ => rfl, rfl⟩
  · exact ⟨id, fun _ => rfl, rfl⟩

omit [Host σ] in
/-- The clients' side of a service is as it was. -/
structure SameClients (s t : Service σ) : Prop where
  calls : t.calls = s.calls
  abandoned : t.abandoned = s.abandoned
  arriving : t.arriving = s.arriving

omit [Host σ] in
theorem SameClients.trans {s t u : Service σ} (first : SameClients s t) (later : SameClients t u) :
    SameClients s u :=
  ⟨later.calls.trans first.calls, later.abandoned.trans first.abandoned,
    later.arriving.trans first.arriving⟩

theorem operate_clients (op : Dispatcher.Op (Desk σ)) (s : Service σ) :
    SameClients s (s.operate engine op) := by
  rw [operate_eq]
  exact ⟨rfl, rfl, rfl⟩

theorem operate_leads (op : Dispatcher.Op (Desk σ)) (own : op.injects = false) (s : Service σ) :
    Dispatcher.Leads engine s.dispatcher (s.operate engine op).dispatcher := by
  rw [operate_eq]
  exact Dispatcher.leads_step engine op own s.dispatcher

theorem changeDesk_leads (change : Desk σ → Desk σ) (s : Service σ) :
    Dispatcher.Leads engine s.dispatcher (s.changeDesk change).dispatcher :=
  Dispatcher.leads_step engine (.changeHost change) rfl s.dispatcher

theorem handle_leads (x : Sent) (s : Service σ) : SameClients s (s.handle x) ∧
    Dispatcher.Leads engine s.dispatcher (s.handle x).dispatcher := by
  have still : Dispatcher.Leads engine s.dispatcher s.dispatcher :=
    refl_of (Dispatcher.Leads engine) _
  have handled := handle_cases engine x s
  generalize s.handle x = t at handled
  cases handled with
  | @operated op own => exact ⟨operate_clients engine op s, operate_leads engine op own s⟩
  | @answered snapshot url frame =>
      have clients := operate_clients engine (.popup snapshot url frame) s
      have leads := operate_leads engine (.popup snapshot url frame) rfl s
      exact ⟨⟨clients.calls, clients.abandoned, clients.arriving⟩,
        trans_of (Dispatcher.Leads engine) leads (changeDesk_leads engine _ _)⟩
  | @panicked snapshot url frame =>
      exact ⟨operate_clients engine _ s, operate_leads engine (.popup snapshot url frame) rfl s⟩
  | waits => exact ⟨⟨rfl, rfl, rfl⟩, still⟩
  | stops => exact ⟨⟨rfl, rfl, rfl⟩, still⟩

theorem answerFlushes_leads (s : Service σ) : SameClients s s.answerFlushes ∧
    Dispatcher.Leads engine s.dispatcher s.answerFlushes.dispatcher := by
  rw [answerFlushes_eq]
  split
  · exact ⟨⟨rfl, rfl, rfl⟩, changeDesk_leads engine (Desk.flushed s.flushWaiters) s⟩
  · exact ⟨⟨rfl, rfl, rfl⟩, refl_of (Dispatcher.Leads engine) _⟩

include engine in
theorem command_clients (x : Sent) (rest : List Sent) (s : Service σ) :
    SameClients s (({ s with channel := rest }).handle x).answerFlushes := by
  obtain ⟨calls, abandoned, arriving⟩ := (handle_leads engine x { s with channel := rest }).1
  exact SameClients.trans ⟨calls, abandoned, arriving⟩ (answerFlushes_leads engine _).1

theorem outcome_clients (s : Service σ) : SameClients s (s.operate engine .next).answerFlushes :=
  (operate_clients engine .next s).trans (answerFlushes_leads engine _).1

/-- The first command that waits enters the channel; a caller without a reply to come is done. -/
def enter (x : Sent) (rest : List Sent) (s : Service σ) : Service σ :=
  let s := { s with arriving := rest, channel := s.channel ++ [x] }
  if x.command.wantsReply then s else s.reply x.call .done

omit [Host σ] in
theorem enter_calls (x : Sent) (rest : List Sent) (s : Service σ) :
    (s.enter x rest).calls = s.calls := by
  rw [enter]
  split <;> rfl

omit [Host σ] in
theorem enter_abandoned (x : Sent) (rest : List Sent) (s : Service σ) :
    (s.enter x rest).abandoned = s.abandoned := by
  rw [enter]
  split <;> rfl

omit [Host σ] in
theorem enter_arriving (x : Sent) (rest : List Sent) (s : Service σ) :
    (s.enter x rest).arriving = rest := by
  rw [enter]
  split <;> rfl

theorem step?_send {call : CallId} {command : Command} {s t : Service σ} :
    s.step? engine (.send call command) = some t ↔
      (call ∉ s.calls ∧ s.handles ≠ 0) ∧ s.send call command = t := by
  simp only [step?, Option.ite_none_left_eq_some, Option.some.injEq, Bool.or_eq_true,
    List.contains_iff_mem, decide_eq_true_eq, not_or, ne_eq]

theorem step?_abandon {call : CallId} {s t : Service σ} :
    s.step? engine (.abandon call) = some t ↔
      (s.isOpen call = true ∧ call ∈ s.calls) ∧ s.abandon call = t := by
  simp only [step?, Option.ite_none_right_eq_some, Option.some.injEq, Bool.and_eq_true,
    List.contains_iff_mem]

theorem step?_cloneHandle {s t : Service σ} :
    s.step? engine .cloneHandle = some t ↔ s.handles ≠ 0 ∧ s.cloneHandle = t := by
  simp only [step?, Option.ite_none_left_eq_some, Option.some.injEq, ne_eq]

theorem step?_dropHandle {s t : Service σ} :
    s.step? engine .dropHandle = some t ↔ s.handles ≠ 0 ∧ s.dropHandle = t := by
  simp only [step?, Option.ite_none_left_eq_some, Option.some.injEq, ne_eq]

theorem step?_enqueue {s t : Service σ} : s.step? engine .enqueue = some t ↔
    ∃ x rest, s.arriving = x :: rest ∧ (s.isRunning = true ∧ s.channel.length < s.capacity) ∧
      s.enter x rest = t := by
  simp only [step?, enqueue?]
  cases s.arriving with
  | nil => simp
  | cons x rest =>
      simp only [Option.ite_none_right_eq_some, Option.some.injEq, Bool.and_eq_true,
        decide_eq_true_eq]
      constructor
      · rintro ⟨room, entered⟩
        exact ⟨x, rest, rfl, room, entered⟩
      · rintro ⟨_, _, same, room, entered⟩
        cases same
        exact ⟨room, entered⟩

theorem step?_takeCommand {s t : Service σ} : s.step? engine .takeCommand = some t ↔
    ∃ x rest, s.channel = x :: rest ∧ s.isRunning = true ∧
      (({ s with channel := rest }).handle x).answerFlushes = t := by
  simp only [step?, takeCommand?]
  cases s.channel with
  | nil => simp
  | cons x rest =>
      simp only [Option.ite_none_right_eq_some, Option.some.injEq]
      constructor
      · rintro ⟨running, handled⟩
        exact ⟨x, rest, rfl, running, handled⟩
      · rintro ⟨_, _, same, running, handled⟩
        cases same
        exact ⟨running, handled⟩

theorem step?_hangUp {s t : Service σ} : s.step? engine .hangUp = some t ↔
    (((s.isRunning = true ∧ s.channel = []) ∧ s.arriving = []) ∧ s.hungUp = true) ∧
      ({ s with status := .stopped } : Service σ) = t := by
  simp only [step?, hangUp?, Option.ite_none_right_eq_some, Option.some.injEq, Bool.and_eq_true,
    List.isEmpty_iff]

/-- All that a move can do. -/
inductive Step (s : Service σ) : Move σ → Service σ → Prop
  | send {call command} : call ∉ s.calls → s.handles ≠ 0 →
      Step s (.send call command) (s.send call command)
  | abandon {call} : s.isOpen call = true → call ∈ s.calls → Step s (.abandon call) (s.abandon call)
  | cloneHandle : s.handles ≠ 0 → Step s .cloneHandle s.cloneHandle
  | dropHandle : s.handles ≠ 0 → Step s .dropHandle s.dropHandle
  | enqueue {x rest} : s.isRunning = true → s.arriving = x :: rest → s.channel.length < s.capacity →
      Step s .enqueue (s.enter x rest)
  | takeCommand {x rest} : s.isRunning = true → s.channel = x :: rest →
      Step s .takeCommand (({ s with channel := rest }).handle x).answerFlushes
  | takeOutcome : s.isRunning = true → s.dispatcher.queue.finished ≠ [] →
      Step s .takeOutcome (s.operate engine .next).answerFlushes
  | hangUp : s.isRunning = true → s.channel = [] → s.arriving = [] → s.hungUp = true →
      Step s .hangUp { s with status := .stopped }
  | start {id} : Step s (.start id) (s.operate engine (.start id))
  | finish {id} : Step s (.finish id) (s.operate engine (.finish id))
  | changeHost {change} : Step s (.changeHost change) (s.changeHost change)

theorem step?_cases {m : Move σ} {s t : Service σ} (h : s.dispatcher.InStep engine)
    (moved : s.step? engine m = some t) : Step engine s m t := by
  cases m with
  | send call command =>
      obtain ⟨⟨fresh, some⟩, rfl⟩ := (step?_send engine).mp moved
      exact .send fresh some
  | abandon call =>
      obtain ⟨⟨open', member⟩, rfl⟩ := (step?_abandon engine).mp moved
      exact .abandon open' member
  | cloneHandle =>
      obtain ⟨some, rfl⟩ := (step?_cloneHandle engine).mp moved
      exact .cloneHandle some
  | dropHandle =>
      obtain ⟨some, rfl⟩ := (step?_dropHandle engine).mp moved
      exact .dropHandle some
  | enqueue =>
      obtain ⟨x, rest, arriving, ⟨running, room⟩, rfl⟩ := (step?_enqueue engine).mp moved
      exact .enqueue running arriving room
  | takeCommand =>
      obtain ⟨x, rest, channel, running, rfl⟩ := (step?_takeCommand engine).mp moved
      exact .takeCommand running channel
  | takeOutcome =>
      obtain ⟨running, there, rfl⟩ := (takeOutcome?_eq_some engine h.accounted).mp moved
      exact .takeOutcome running there
  | hangUp =>
      obtain ⟨⟨⟨⟨running, channel⟩, arriving⟩, hungUp⟩, rfl⟩ := (step?_hangUp engine).mp moved
      exact .hangUp running channel arriving hungUp
  | start id =>
      simp only [step?, start?] at moved
      split at moved
      · next queue started =>
          cases moved
          have same := operate_start engine id s
          rw [Dispatcher.start, started] at same
          rw [← same]
          exact .start
      · cases moved
  | finish id =>
      simp only [step?, finish?] at moved
      split at moved
      · next queue done =>
          cases moved
          have same := operate_finish engine id s
          rw [Dispatcher.finish, done] at same
          rw [← same]
          exact .finish
      · cases moved
  | changeHost change =>
      cases moved
      exact .changeHost

/-- A move of the service makes its dispatcher move as it may by itself. -/
theorem Step.leads {m : Move σ} {s t : Service σ} (step : Step engine s m t) :
    Dispatcher.Leads engine s.dispatcher t.dispatcher := by
  have still : Dispatcher.Leads engine s.dispatcher s.dispatcher :=
    refl_of (Dispatcher.Leads engine) _
  cases step with
  | @send call command fresh some =>
      rw [Service.send]
      split <;> exact still
  | abandon open' member => exact still
  | cloneHandle some => exact still
  | dropHandle some => exact still
  | @enqueue x rest running arriving room =>
      rw [enter]
      split
      · exact still
      · exact changeDesk_leads engine _ s
  | @takeCommand x rest running channel =>
      have first := (handle_leads engine x { s with channel := rest }).2
      exact trans_of (Dispatcher.Leads engine) first (answerFlushes_leads engine _).2
  | takeOutcome running there =>
      have first := operate_leads engine .next rfl s
      exact trans_of (Dispatcher.Leads engine) first (answerFlushes_leads engine _).2
  | hangUp running channel arriving hungUp => exact still
  | start => exact operate_leads engine _ rfl s
  | finish => exact operate_leads engine _ rfl s
  | changeHost => exact changeDesk_leads engine _ s

theorem Step.inStep {m : Move σ} {s t : Service σ} (step : Step engine s m t)
    (h : s.dispatcher.InStep engine) : t.dispatcher.InStep engine :=
  (step.leads engine).inStep h

end Service

end FilterDispatch
