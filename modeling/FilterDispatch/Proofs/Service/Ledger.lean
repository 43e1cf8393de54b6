import FilterDispatch.Proofs.Service.Moves

/-!
The ledger of a service.  Each call that was sent is held in one place, where its reply will be made,
or has been replied to, or was given up before its command got into the channel.
-/

namespace FilterDispatch

theorem count_repliesOf (effects : List Effect) (call : CallId) :
    ((repliesOf effects).map (·.1)).count call = (invoked effects).count call := by
  simp [repliesOf, invoked, List.map_reverse, List.count_reverse, Function.comp_def]

namespace Service

variable {σ : Type}

/-- The calls whose reply is still to be made; the command in `hand` has left the channel and is about
to be handled. -/
def held (hand : List Sent) (s : Service σ) : List CallId :=
  s.arriving.map (·.call) ++
    (((hand ++ s.channel).filter (·.command.wantsReply)).map (·.call) ++
      (s.dispatcher.awaited ++ s.flushWaiters))

def replied (s : Service σ) : List CallId :=
  s.desk.replies.map (·.1)

/-- How often a call is held or has been replied to. -/
def entries (hand : List Sent) (s : Service σ) (call : CallId) : Nat :=
  (s.held hand).count call + s.replied.count call

structure Ledger (hand : List Sent) (s : Service σ) : Prop where
  once : ∀ call, s.entries hand call ≤ 1
  known : ∀ call, 0 < s.entries hand call → call ∈ s.calls
  complete : s.isRunning = true → ∀ call ∈ s.calls, 0 < s.entries hand call ∨ call ∈ s.abandoned

/-- The ledger is kept if nothing is entered, and nothing but abandoned calls is lost while the loop
runs. -/
theorem Ledger.transfer {hand hand' : List Sent} {s t : Service σ} (ledger : s.Ledger hand)
    (calls : t.calls = s.calls) (fewer : ∀ call, t.entries hand' call ≤ s.entries hand call)
    (lost : t.isRunning = true → s.isRunning = true ∧ ∀ call,
      t.entries hand' call = s.entries hand call ∨ call ∈ t.abandoned)
    (abandoned : ∀ call ∈ s.abandoned, call ∈ t.abandoned) : t.Ledger hand' where
  once call := Nat.le_trans (fewer call) (ledger.once call)
  known call there := by
    rw [calls]
    exact ledger.known call (Nat.lt_of_lt_of_le there (fewer call))
  complete running call member := by
    obtain ⟨running', kept⟩ := lost running
    rw [calls] at member
    rcases kept call with same | gone
    · rw [same]
      exact (ledger.complete running' call member).imp_right (abandoned call)
    · exact .inr gone

theorem entries_reply (hand : List Sent) (s : Service σ) (call : CallId) (r : Reply)
    (other : CallId) :
    (s.reply call r).entries hand other = s.entries hand other + [call].count other := by
  have replied : (s.reply call r).replied = call :: s.replied := rfl
  have held : (s.reply call r).held hand = s.held hand := rfl
  rw [entries, entries, replied, held, List.count_cons, List.count_singleton, Nat.add_assoc]

theorem entries_answerFlushes (s : Service σ) (call : CallId) :
    s.answerFlushes.entries [] call = s.entries [] call := by
  rw [answerFlushes_eq]
  split
  · simp only [entries, held, replied, desk, changeDesk, Dispatcher.changeHost, Desk.flushed,
      Dispatcher.awaited, List.count_append, List.map_append, List.map_reverse, List.count_reverse, List.map_map,
      Function.comp_def, List.map_id', List.count_nil]
    omega
  · rfl

theorem Ledger.keep {hand hand' : List Sent} {s t : Service σ} (ledger : s.Ledger hand)
    (calls : t.calls = s.calls) (abandoned : t.abandoned = s.abandoned)
    (same : ∀ call, t.entries hand' call = s.entries hand call)
    (running : t.isRunning = true → s.isRunning = true) : t.Ledger hand' :=
  ledger.transfer calls (fun call => Nat.le_of_eq (same call))
    (fun still => ⟨running still, fun call => .inl (same call)⟩)
    fun _ gone => abandoned ▸ gone

theorem entries_hand (x : Sent) (s : Service σ) (call : CallId) :
    s.entries [x] call =
      s.entries [] call + (if x.command.wantsReply then [x.call] else []).count call := by
  by_cases wants : x.command.wantsReply = true
  · simp [entries, held, wants, List.count_append, List.count_cons]
    omega
  · simp [entries, held, wants]

theorem entries_flush (s : Service σ) (call other : CallId) :
    ({ s with flushWaiters := s.flushWaiters ++ [call] } : Service σ).entries [] other =
      s.entries [] other + [call].count other := by
  simp only [entries, held, replied, desk, List.count_append]
  omega

theorem answerFlushes_running {s : Service σ} (running : s.answerFlushes.isRunning = true) :
    s.isRunning = true := by
  rw [answerFlushes_eq] at running
  split at running
  · exact running
  · exact running

theorem entries_pop {s : Service σ} {x : Sent} {rest : List Sent} (channel : s.channel = x :: rest)
    (call : CallId) :
    ({ s with channel := rest } : Service σ).entries [x] call = s.entries [] call := by
  simp only [entries, held, replied, desk, Dispatcher.awaited, channel, List.singleton_append,
    List.nil_append]

theorem entries_enter {s : Service σ} {x : Sent} {rest : List Sent}
    (arriving : s.arriving = x :: rest) (call : CallId) : (s.enter x rest).entries [] call = s.entries [] call := by
  unfold enter
  cases wants : x.command.wantsReply with
  | true =>
      simp only [if_true, entries, held, replied, desk, arriving, wants, List.nil_append,
        List.filter_append, List.filter_cons, List.filter_nil, List.map_append, List.map_cons,
        List.map_nil, List.count_append, List.count_cons, List.count_nil]
      omega
  | false =>
      simp only [Bool.false_eq_true, if_false, entries_reply]
      simp only [entries, held, replied, desk, arriving, wants, List.nil_append, Bool.false_eq_true,
        if_false, List.filter_append, List.filter_cons, List.filter_nil, List.map_append,
        List.map_cons, List.map_nil, List.count_append, List.count_cons, List.count_nil]
      omega

theorem entries_send (s : Service σ) (call : CallId) (command : Command) (other : CallId) :
    (s.send call command).entries [] other =
      s.entries [] other + if s.isRunning = true then [call].count other else 0 := by
  by_cases running : s.isRunning = true
  · rw [send_of_running call command running, if_pos running]
    simp only [entries, held, replied, desk, List.count_append, List.map_append, List.map_cons,
      List.map_nil]
    omega
  · rw [send_of_ended call command running, if_neg running]
    rfl

theorem Ledger.send {s : Service σ} (ledger : s.Ledger []) {call : CallId} (command : Command)
    (fresh : call ∉ s.calls) : (s.send call command).Ledger [] := by
  have new : s.entries [] call = 0 :=
    Nat.eq_zero_of_not_pos fun there => fresh (ledger.known call there)
  have counts := entries_send s call command
  refine ⟨?_, ?_, ?_⟩
  · intro other
    have old := ledger.once other
    rw [counts other]
    by_cases same : other = call
    · subst same
      rw [new]
      split <;> simp
    · rw [List.count_singleton]
      split <;> simp [Ne.symm same, old]
  · intro other there
    rw [send_calls]
    by_cases same : other = call
    · exact same ▸ List.mem_cons_self
    · refine List.mem_cons_of_mem _ (ledger.known other ?_)
      rw [counts other, List.count_singleton] at there
      split at there <;> simpa [Ne.symm same] using there
  · intro running other member
    rw [send_isRunning] at running
    rw [send_calls] at member
    rw [counts other, if_pos running, send_abandoned]
    rcases List.mem_cons.mp member with rfl | old
    · exact .inl (by simp)
    · exact (ledger.complete running other old).imp_left fun there => Nat.add_pos_left there _

theorem Ledger.abandon {s : Service σ} (ledger : s.Ledger []) (call : CallId) :
    (s.abandon call).Ledger [] := by
  have rest : ∀ other, (s.abandon call).entries [] other + (s.arriving.map (·.call)).count other =
      s.entries [] other +
        ((s.arriving.filter fun x => x.call ≠ call).map (·.call)).count other := fun other => by
    simp only [entries, held, replied, desk, Service.abandon, List.count_append]
    omega
  have parts : (s.arriving.filter fun x => x.call ≠ call).map (·.call) =
      (s.arriving.map (·.call)).filter (· ≠ call) := by
    rw [List.filter_map]
    rfl
  refine ledger.transfer rfl ?_ (fun running => ⟨running, ?_⟩)
    fun other gone => List.mem_cons_of_mem _ gone
  · intro other
    have count := rest other
    have less := List.filter_sublist (p := fun c => decide (c ≠ call)) (l := s.arriving.map (·.call))
    rw [parts] at count
    have fewer := less.count_le other
    omega
  · intro other
    by_cases same : other = call
    · exact .inr (same ▸ List.mem_cons_self)
    · have count := rest other
      rw [parts, List.count_filter (by simpa using same)] at count
      exact .inl (Nat.add_right_cancel count)

variable [Host σ] {engine : Engine}

theorem entries_operate {op : Dispatcher.Op (Desk σ)} {s : Service σ}
    (h : s.dispatcher.InStep engine) (own : op.injects = false)
    (acts : op.changesHost = false) (hand : List Sent) :
    ∃ lost, lost.Sublist op.callback?.toList ∧
      ((s.operate engine op).isRunning = true → s.isRunning = true ∧ lost = []) ∧
      ∀ call, (s.operate engine op).entries hand call + lost.count call =
        s.entries hand call + op.callback?.toList.count call := by
  have course := Dispatcher.course engine h.accounted own
  obtain ⟨lost, among, fine, moved⟩ := course.custody h.orderly
  obtain ⟨new, grown, replies⟩ := Dispatcher.perform_along Desk.kept engine acts s.dispatcher
  rw [← Dispatcher.step_final] at grown replies
  refine ⟨lost, among, ?_, ?_⟩
  · intro running
    obtain ⟨running', v, ok⟩ := operate_running engine running
    exact ⟨running', fine v ok⟩
  · intro call
    have counts := moved.count_eq call
    rw [Dispatcher.effectsSince_eq grown] at counts
    simp only [List.count_append] at counts
    have held : ((s.operate engine op).held hand).count call +
        s.dispatcher.awaited.count call = (s.held hand).count call +
          (Dispatcher.step engine op s.dispatcher).2.awaited.count call := by
      rw [operate_eq]
      simp only [held, List.count_append]
      omega
    have replied : (s.operate engine op).replied.count call =
        (invoked new).count call + s.replied.count call := by
      rw [operate_eq]
      simp only [replied, desk, replies, List.map_append, List.count_append, count_repliesOf]
    simp only [entries]
    omega

theorem entries_unasked {op : Dispatcher.Op (Desk σ)} {s : Service σ} (h : s.dispatcher.InStep engine)
    (own : op.injects = false) (acts : op.changesHost = false) (none : op.callback? = none)
    (hand : List Sent) (call : CallId) :
    (s.operate engine op).entries hand call = s.entries hand call := by
  obtain ⟨lost, among, -, counts⟩ := entries_operate h own acts hand
  simp only [none, Option.toList_none, List.sublist_nil, List.count_nil, Nat.add_zero] at among counts
  subst among
  exact counts call

theorem entries_handle {s : Service σ} (h : s.dispatcher.InStep engine) (x : Sent) :
    (∀ call, (s.handle x).entries [] call ≤ s.entries [x] call) ∧
      ((s.handle x).isRunning = true → s.isRunning = true ∧
        ∀ call, (s.handle x).entries [] call = s.entries [x] call) := by
  simp only [entries_hand x s]
  have handled := handle_cases engine x s
  generalize s.handle x = t at handled
  cases handled with
  | operated own acts brings wants =>
      obtain ⟨lost, among, fine, counts⟩ := entries_operate h own acts []
      have same : (if x.command.wantsReply then [x.call] else []) =
          (if x.command.asks then some x.call else none).toList := by
        rw [wants]
        cases x.command.asks <;> rfl
      simp only [brings] at among counts
      rw [same]
      refine ⟨fun call => (counts call).symm ▸ Nat.le_add_right _ _, ?_⟩
      intro running
      obtain ⟨running', rfl⟩ := fine running
      exact ⟨running', fun call => by simpa using counts call⟩
  | @answered snapshot url frame r d popup popped =>
      have moved : ∀ other, entries []
          ((s.operate engine (.popup snapshot url frame)).reply x.call (.answer (.result r))) other =
            s.entries [] other + (if x.command.wantsReply then [x.call] else []).count other := by
        intro other
        rw [popup, entries_reply, entries_unasked h rfl rfl rfl]
        rfl
      refine ⟨fun other => Nat.le_of_eq (moved other), fun running => ⟨?_, moved⟩⟩
      exact (operate_running (s := s) engine running).1
  | panicked popup ended =>
      refine ⟨?_, ?_⟩
      · intro other
        rw [entries_unasked h rfl rfl rfl]
        exact Nat.le_add_right _ _
      · intro running
        rw [ended] at running
        cases running
  | waits flush =>
      have moved : ∀ other, entries [] { s with flushWaiters := s.flushWaiters ++ [x.call] } other =
          s.entries [] other + (if x.command.wantsReply then [x.call] else []).count other := by
        intro other
        rw [flush]
        exact entries_flush s x.call other
      exact ⟨fun other => Nat.le_of_eq (moved other), fun running => ⟨running, moved⟩⟩
  | stops shutdown =>
      refine ⟨fun other => Nat.le_add_right _ _, ?_⟩
      intro running
      cases of_decide_eq_true running

theorem Ledger.handle {x : Sent} {s : Service σ} (h : s.dispatcher.InStep engine)
    (ledger : s.Ledger [x]) : (s.handle x).Ledger [] := by
  obtain ⟨fewer, moved⟩ := entries_handle h x
  have clients := (handle_leads engine x s).1
  refine ledger.transfer clients.calls fewer ?_ ?_
  · intro running
    exact ⟨(moved running).1, fun call => .inl ((moved running).2 call)⟩
  · intro call gone
    rwa [clients.abandoned]

theorem Ledger.take {x : Sent} {rest : List Sent} {s : Service σ} (h : s.dispatcher.InStep engine)
    (ledger : s.Ledger []) (channel : s.channel = x :: rest) :
    (({ s with channel := rest } : Service σ).handle x).Ledger [] := by
  have taken : ({ s with channel := rest } : Service σ).Ledger [x] :=
    ledger.keep rfl rfl (entries_pop channel) id
  exact Ledger.handle (s := { s with channel := rest }) h taken

theorem Ledger.answerFlushes {s : Service σ} (engine : Engine) (ledger : s.Ledger []) :
    s.answerFlushes.Ledger [] :=
  have clients := (answerFlushes_leads engine s).1
  ledger.keep clients.calls clients.abandoned (entries_answerFlushes s) answerFlushes_running

/-- The loop and the workers move calls on without losing any. -/
theorem Ledger.operate {op : Dispatcher.Op (Desk σ)} {s : Service σ} (h : s.dispatcher.InStep engine)
    (ledger : s.Ledger []) (own : op.injects = false) (acts : op.changesHost = false)
    (none : op.callback? = none) : (s.operate engine op).Ledger [] := by
  have clients := operate_clients engine op s
  exact ledger.keep clients.calls clients.abandoned (entries_unasked h own acts none [])
    fun running => (operate_running engine running).1

theorem Ledger.step {m : Move σ} {s t : Service σ} (ledger : s.Ledger [])
    (h : s.dispatcher.InStep engine) (step : Step engine s m t) : t.Ledger [] := by
  cases step with
  | send fresh some => exact ledger.send _ fresh
  | abandon open' member => exact ledger.abandon _
  | cloneHandle some => exact ⟨ledger.once, ledger.known, ledger.complete⟩
  | dropHandle some => exact ⟨ledger.once, ledger.known, ledger.complete⟩
  | @enqueue x rest running arriving room =>
      exact ledger.keep (enter_calls x rest s) (enter_abandoned x rest s) (entries_enter arriving)
        fun _ => running
  | @takeCommand x rest running channel =>
      exact (Ledger.take h ledger channel).answerFlushes engine
  | takeOutcome running there =>
      have next : (s.operate engine .next).Ledger [] := ledger.operate h rfl rfl rfl
      exact next.answerFlushes engine
  | hangUp running channel arriving hungUp =>
      exact ⟨ledger.once, ledger.known, fun running => by cases of_decide_eq_true running⟩
  | start => exact ledger.operate h rfl rfl rfl
  | finish => exact ledger.operate h rfl rfl rfl
  | changeHost => exact ⟨ledger.once, ledger.known, ledger.complete⟩

end Service

end FilterDispatch
