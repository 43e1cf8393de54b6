import FilterDispatch.Proofs.Dispatcher.Custody
import FilterDispatch.Proofs.Dispatcher.Registrations

/-!
Panics.  A call that panics has posted nothing and a popup touches no job; a drain has taken what it
delivered and nothing more, the last delivery being the one that panicked.  Whatever comes after that,
no callback is lost or invoked twice.
-/

namespace FilterDispatch

variable {σ : Type} [Host σ]

/-- The host panics on behalf of a call: when it is asked, or when it is to be told that there is no
frame. -/
inductive Call.HostPanics (c : Call) (h : σ) (p : Panic) : Prop
  | asked {k} : c.look h = .error p k → HostPanics c h p
  | told {k l} : c.look h = .ok none k → Host.receive c.callback c.denied k = .error p l →
      HostPanics c h p

namespace Dispatcher

variable {engine : Engine} {d e : Dispatcher σ} {xs : List (Delivery σ)} {p : Panic} {op : Op σ}
  {ops : List (Op σ)}

theorem call_panics {c : Call} (mine : op.call? = some c)
    (panicked : step engine op d = (.error p, e)) :
    op.refusal? = some p ∧ e = d ∨
      op.refusal? = none ∧ c.HostPanics d.stage.host p ∧ e.queue = d.queue ∧
        e.pending = d.pending ∧ e.observers = d.observers := by
  have performed := perform_call engine mine d
  cases refusal : op.refusal? with
  | some q =>
      rw [refusal] at performed
      rw [step_of_error performed] at panicked
      cases panicked
      exact .inl ⟨rfl, rfl⟩
  | none =>
      rw [refusal] at performed
      refine .inr ⟨rfl, ?_⟩
      have ways := called_cases c d
      cases placed : place c d with
      | ok _ e' =>
          rw [step_of_ok (performed.trans (Control.bind_of_ok _ placed))] at panicked
          cases panicked
      | error q e' =>
          rw [step_of_error (performed.trans (Control.bind_of_error _ placed))] at panicked
          cases panicked
          rw [placed] at ways
          cases ways with
          | hostPanics looked first => exact ⟨.asked looked, rfl, rfl, rfl⟩
          | callbackPanics looked received => exact ⟨.told looked received, rfl, rfl, rfl⟩

/-- A popup, also one that panics, leaves the jobs alone and loses registrations to its pass only. -/
theorem popup_aside (engine : Engine) (snapshot : Snapshot) (url : Url) (frame : FrameId)
    (d : Dispatcher σ) :
    let e := (step engine (.popup snapshot url frame) d).2
    e.queue = d.queue ∧ e.pending = d.pending ∧ invoked (effectsSince d e) = [] ∧
      e.observers = d.observers.sweep (Sight.passStart? snapshot url frame d.stage.host).toList := by
  have led := step_popup engine snapshot url frame d
  have kept := popup_keeps snapshot url frame d
  obtain ⟨new, grown, aside⟩ := kept.adds
  refine ⟨led ▸ kept.queue, led ▸ kept.pending, ?_, led ▸ popup_observers snapshot url frame d⟩
  rw [led, effectsSince_eq grown]
  exact invoked_eq_nil fun x member => (aside x member).1

theorem complete_panicked {f : Finished JobOutput} (panicked : complete f d = .error p e) :
    ∃ entry, d.pending.lookup f.id = some entry ∧
      Settled entry f.output (d.forgetting f.id) (.error p e) := by
  cases known : d.pending.lookup f.id with
  | none =>
      rw [complete_of_none known] at panicked
      cases panicked
  | some entry =>
      refine ⟨entry, rfl, ?_⟩
      rw [← panicked, complete_of_some known]
      exact settled entry f.output (d.forgetting f.id)

/-- The last delivery of a drain panicked, and those before it came to their end. -/
structure Last (done : List (Delivery σ)) (x : Delivery σ) (entry : Pending) (p : Panic)
    (e : Dispatcher σ) : Prop where
  before : ∀ y ∈ done, complete y.outcome y.before = .ok () y.after
  known : x.before.pending.lookup x.outcome.id = some entry
  settled : Settled entry x.outcome.output (x.before.forgetting x.outcome.id) (.error p e)

theorem Drained.last {r : Option Panic} (drained : Drained d xs r e) (torn : r = some p) :
    ∃ done x entry, xs = done ++ [x] ∧ Last done x entry p e := by
  induction drained with
  | done d => cases torn
  | next found completed rest ih =>
      obtain ⟨done, x, entry, rfl, last⟩ := ih torn
      refine ⟨_ :: done, x, entry, rfl, ?_, last.known, last.settled⟩
      intro y member
      rcases List.mem_cons.mp member with rfl | later
      · exact completed
      · exact last.before y later
  | panicked found completed =>
      cases torn
      obtain ⟨entry, known, settled⟩ := complete_panicked completed
      exact ⟨[], _, entry, rfl, by simp, known, settled⟩

theorem Delivers.answers (delivers : Delivers d xs e) (once : (xs.map (·.outcome.id)).Nodup) :
    ∀ x ∈ xs, x.effects.filterMap Effect.answer? =
      ((d.pending.lookup x.outcome.id).bind fun entry => entry.reply? x.outcome.output).toList := by
  induction delivers with
  | done d => simp
  | @next d f queue rest e found delivers ih =>
      obtain ⟨new, grown, answers, -⟩ := complete_summary f { d with queue }
      obtain ⟨fresh, once'⟩ := List.nodup_cons.mp once
      intro x member
      rcases List.mem_cons.mp member with rfl | later
      · rw [Delivery.effects, effectsSince_eq grown, answers]
      · have other : x.outcome.id ≠ f.id := fun same =>
          fresh (List.mem_map.mpr ⟨x, later, same⟩)
        rw [ih once' x later, complete_pending, lookup_filter_ne other]

/-- What a drain that panics leaves: the outcomes that it delivered are gone, with their entries, and
all others are where they were. -/
structure Torn (d : Dispatcher σ) (xs : List (Delivery σ)) (p : Panic) (e : Dispatcher σ) : Prop where
  last : ∃ done x entry, xs = done ++ [x] ∧ Last done x entry p e
  once : (xs.map (·.outcome.id)).Nodup
  counted : d.inFlight = xs.length + e.inFlight
  queued : d.queue.finished = xs.map (·.outcome) ++ e.queue.finished
  queue : e.queue = { d.queue with inFlight := e.inFlight, finished := e.queue.finished }
  entries : e.pending = d.pending.filter fun entry => entry.1 ∉ xs.map (·.outcome.id)
  answers : ∀ x ∈ xs, x.effects.filterMap Effect.answer? =
    ((d.pending.lookup x.outcome.id).bind fun entry => entry.reply? x.outcome.output).toList
  observers : e.observers = d.observers.sweep (xs.filterMap Delivery.passStart?)

theorem drain_torn (drains : op.drains = true) (accounted : d.queue.Accounted)
    (panicked : step engine op d = (.error p, e)) : Torn d (op.deliveries d) p e := by
  have drained := step_drained engine drains accounted
  rw [panicked] at drained
  have delivers := drained.delivers
  obtain ⟨counted, once⟩ := delivers.counted accounted
  obtain ⟨order, same⟩ := delivers.queue
  have left : e.inFlight = d.queue.inFlight - (op.deliveries d).length :=
    congrArg WorkQueue.inFlight same
  refine ⟨drained.last rfl, once, counted, order, ?_, delivers.pending, delivers.answers once,
    delivers.observers⟩
  rwa [left]

/-- What becomes of callbacks after an operation that made these deliveries, whatever follows it. -/
structure Resumed (d : Dispatcher σ) (xs : List (Delivery σ)) (e f : Dispatcher σ) : Prop where
  invoked : ∀ call ∈ invoked (effectsSince d e), call ∉ invoked (effectsSince e f)
  delivered : ∀ x ∈ xs, ∀ entry, (x.outcome.id, entry) ∈ d.pending →
    ∀ call, entry.callback? = some call → call ∉ FilterDispatch.invoked (effectsSince e f)
  remaining : f.inFlight = 0 → ∀ call ∈ e.awaited,
    (FilterDispatch.invoked (effectsSince e f)).count call = 1

/-- A callback that was invoked in a run is not invoked again when the run goes on, and one that is
kept is invoked once if nothing stays in flight. -/
theorem run_resumed {d₀ f : Dispatcher σ} {more : List (Op σ)} (start : d₀.Orderly)
    (vacant : d₀.pending = []) (reached : (run engine ops d₀).2 = e)
    (ended : (run engine more e).2 = f)
    (distinct : ((ops ++ more).filterMap Op.callback?).Nodup) :
    (∀ call ∈ invoked (effectsSince d₀ e), call ∉ invoked (effectsSince e f)) ∧
      (f.inFlight = 0 → ∀ call ∈ e.awaited, (invoked (effectsSince e f)).count call = 1) := by
  obtain ⟨lost, -, moved⟩ := run_custody engine ops start
  have there := run_orderly engine ops start
  rw [reached] at moved there
  obtain ⟨lost', among, moved'⟩ := run_custody engine more there
  have last := run_orderly engine more there
  rw [ended] at moved' last
  have none : d₀.awaited = [] := by rw [awaited, vacant, List.filterMap_nil]
  rw [none, List.append_nil] at moved
  rw [List.filterMap_append, List.nodup_iff_count_le_one] at distinct
  constructor
  · intro call told again
    have once := distinct call
    have counts := moved.count_eq call
    have counts' := moved'.count_eq call
    have here := List.count_pos_iff.mpr told
    have twice := List.count_pos_iff.mpr again
    simp only [List.count_append] at once counts counts'
    omega
  · intro idle call kept
    have empty : f.awaited = [] := by rw [awaited, last.idle idle, List.filterMap_nil]
    have once := distinct call
    have counts := moved.count_eq call
    have counts' := moved'.count_eq call
    have fewer := among.count_le call
    have here := List.count_pos_iff.mpr kept
    rw [empty] at counts'
    simp only [List.count_append, List.count_nil] at once counts counts'
    omega

theorem Delivers.invoked (delivers : Delivers d xs e) (h : d.Orderly) {x : Delivery σ}
    (member : x ∈ xs) {entry : Pending} (kept : (x.outcome.id, entry) ∈ d.pending) {call : CallId}
    (own : entry.callback? = some call) : call ∈ FilterDispatch.invoked (effectsSince d e) := by
  have answers := delivers.answers (delivers.counted h.accounted).2 x member
  have callback := entry.reply?_callback x.outcome.output
  rw [(lookup_eq_some h.distinct).mpr kept, Option.bind_some] at answers
  rw [effectsSince_eq delivers.effects, invoked_flatMap, List.mem_flatMap]
  refine ⟨x, member, ?_⟩
  rw [FilterDispatch.invoked, answers]
  rw [own] at callback
  obtain ⟨reply, told, rfl⟩ := Option.map_eq_some_iff.mp callback
  simp [told]

theorem step_resumed {d₀ : Dispatcher σ} {more : List (Op σ)} (start : d₀.Orderly)
    (vacant : d₀.pending = []) (reached : (run engine ops d₀).2 = d)
    (led : (step engine op d).2 = e)
    (distinct : ((ops ++ op :: more).filterMap Op.callback?).Nodup) :
    Resumed d (op.deliveries d) e (run engine more e).2 := by
  have there := run_orderly engine ops start
  have grown := run_grown engine ops start
  rw [reached] at there grown
  have onward := step_grown engine op there.accounted
  rw [led] at onward
  have now : (run engine (ops ++ [op]) d₀).2 = e := by
    rw [run_append, reached, ← led]
    rfl
  have both : ops ++ op :: more = (ops ++ [op]) ++ more := by simp
  rw [both] at distinct
  obtain ⟨spent, remaining⟩ := run_resumed start vacant now rfl distinct
  have done : ∀ call ∈ invoked (effectsSince d e),
      call ∉ invoked (effectsSince e (run engine more e).2) := by
    intro call told
    apply spent call
    rw [effectsSince_trans grown onward, FilterDispatch.invoked, List.filterMap_append,
      List.map_append]
    exact List.mem_append_right _ told
  refine ⟨done, ?_, remaining⟩
  intro x member entry kept call own
  cases drains : op.drains with
  | false =>
      rw [deliveries_of_not_drains drains d] at member
      cases member
  | true =>
      have delivers := (step_drained engine drains there.accounted).delivers
      rw [led] at delivers
      exact done call (delivers.invoked there member kept own)

theorem isWebSocket_iff (u : Url) : u.isWebSocket = true ↔ u.scheme = "ws" ∨ u.scheme = "wss" := by
  simp [Url.isWebSocket]

omit [Host σ] in
theorem refusal?_request (snapshot : Snapshot) (url : Url) (contentType : ContentType)
    (frame : FrameId) (callback : CallId) :
    (Op.request snapshot url contentType frame callback : Op σ).refusal? =
      if contentType = .websocket ∨ url.scheme = "ws" ∨ url.scheme = "wss" then
        some wantsSocketUpgrade
      else none := by
  simp only [Op.refusal?, isWebSocket_iff]

omit [Host σ] in
theorem refusal?_socketUpgrade (snapshot : Snapshot) (url : Url) (frame : FrameId)
    (callback : CallId) :
    (Op.socketUpgrade snapshot url frame callback : Op σ).refusal? =
      if url.scheme = "ws" ∨ url.scheme = "wss" then none else some (noSocketUpgrade url) := by
  simp only [Op.refusal?, ← isWebSocket_iff]
  cases url.isWebSocket <;> rfl

theorem refused_or_host (engine : Engine) {op : Op σ} (d : Dispatcher σ) {c : Call}
    (mine : op.call? = some c) :
    (∀ p, op.refusal? = some p → step engine op d = (.error p, d)) ∧
      (op.refusal? = none → ∀ p e, step engine op d = (.error p, e) →
        c.HostPanics d.stage.host p) := by
  have performed := perform_call engine mine d
  constructor
  · intro p refused
    rw [refused] at performed
    exact step_of_error performed
  · intro fine p e panicked
    rcases call_panics mine panicked with ⟨refused, -⟩ | ⟨-, host, -⟩
    · rw [fine] at refused
      cases refused
    · exact host

/-- All that panics do to a dispatcher that some operations led to. -/
structure Contained (engine : Engine) (ops : List (Op σ)) (d : Dispatcher σ) : Prop where
  request : ∀ snapshot url contentType frame callback,
    let op : Op σ := .request snapshot url contentType frame callback
    if contentType = .websocket ∨ url.scheme = "ws" ∨ url.scheme = "wss" then
      step engine op d = (.error wantsSocketUpgrade, d)
    else ∀ p e, step engine op d = (.error p, e) →
      (Call.request snapshot url contentType frame callback).HostPanics d.stage.host p
  socketUpgrade : ∀ snapshot url frame callback,
    let op : Op σ := .socketUpgrade snapshot url frame callback
    if url.scheme = "ws" ∨ url.scheme = "wss" then
      ∀ p e, step engine op d = (.error p, e) →
        (Call.request snapshot url .websocket frame callback).HostPanics d.stage.host p
    else step engine op d = (.error (noSocketUpgrade url), d)
  call : ∀ op c p e, op.call? = some c → step engine op d = (.error p, e) →
    e.queue = d.queue ∧ e.pending = d.pending ∧ e.observers = d.observers
  popup : ∀ snapshot url frame p e, step engine (.popup snapshot url frame) d = (.error p, e) →
    e.queue = d.queue ∧ e.pending = d.pending ∧ invoked (effectsSince d e) = [] ∧
      e.observers = d.observers.sweep (Sight.passStart? snapshot url frame d.stage.host).toList
  drain : ∀ op p e, op.drains = true → step engine op d = (.error p, e) →
    Torn d (op.deliveries d) p e
  resumed : ∀ op p e more, step engine op d = (.error p, e) →
    ((ops ++ op :: more).filterMap Op.callback?).Nodup →
    Resumed d (op.deliveries d) e (run engine more e).2
  inStep : ∀ op p e, (∀ other ∈ op :: ops, other.injects = false) →
    step engine op d = (.error p, e) → e.InStep engine

/-- A panic changes nothing halfway, in whatever operation it is raised. -/
theorem panics_contained (engine : Engine) {n : Nat} {host : σ} {d₀ : Dispatcher σ}
    (made : Dispatcher.new n host = .ok d₀) (ops : List (Op σ)) :
    Contained engine ops (run engine ops d₀).2 := by
  have start := new_orderly made
  have vacant := (new_inStep engine made).2.1
  have there := run_orderly engine ops start
  generalize reached : (run engine ops d₀).2 = d at there
  refine ⟨?_, ?_, ?_, ?_, ?_, ?_, ?_⟩
  · intro snapshot url contentType frame callback op
    have mine : op.call? = some (.request snapshot url contentType frame callback) := rfl
    obtain ⟨refused, fine⟩ := refused_or_host engine d mine
    have refusal := refusal?_request (σ := σ) snapshot url contentType frame callback
    split
    · next misdirected => exact refused _ (refusal.trans (if_pos misdirected))
    · next directed => exact fine (refusal.trans (if_neg directed))
  · intro snapshot url frame callback op
    have mine : op.call? = some (.request snapshot url .websocket frame callback) := rfl
    obtain ⟨refused, fine⟩ := refused_or_host engine d mine
    have refusal := refusal?_socketUpgrade (σ := σ) snapshot url frame callback
    split
    · next directed => exact fine (refusal.trans (if_pos directed))
    · next misdirected => exact refused _ (refusal.trans (if_neg misdirected))
  · intro op c p e mine panicked
    rcases call_panics mine panicked with ⟨-, rfl⟩ | ⟨-, -, same⟩
    · exact ⟨rfl, rfl, rfl⟩
    · exact same
  · intro snapshot url frame p e panicked
    have aside := popup_aside engine snapshot url frame d
    rwa [panicked] at aside
  · intro op p e drains panicked
    exact drain_torn drains there.accounted panicked
  · intro op p e more panicked distinct
    exact step_resumed start vacant reached (by rw [panicked]) distinct
  · intro op p e own panicked
    have inStep : d.InStep engine := by
      rw [← reached]
      exact run_inStep (new_inStep engine made).1 fun other member =>
        own other (List.mem_cons_of_mem _ member)
    have led := (course engine inStep.accounted (own op List.mem_cons_self)).inStep inStep
    rwa [panicked] at led

/-- A register with one callback that panics. -/
structure Tripwire where
  frames : List LiveFrame
  callback : CallId

instance : Host Tripwire where
  resolve frame := do return (← get).frames.find? fun live => live.id = frame
  ancestorChain live := return [live.url]
  findSiteKey _ := return none
  classifyInline _ := return .ignored
  receive call _ := do if call = (← get).callback then throw .value
  observe _ _ := return ()
  owned _ _ := true

/-- The first of two callbacks panics; the second is still to come, and comes with the next drain. -/
theorem first_callback_contained :
    let live : LiveFrame := ⟨⟨1, 2⟩, ⟨"https://a.example/"⟩⟩
    let url : Url := ⟨"https://b.example/"⟩
    let engine : Engine := ⟨fun _ => .ok .ignored⟩
    let start : Dispatcher Tripwire := { queue := { free := 2 }, stage := { host := ⟨[live], 7⟩ } }
    let ops : List (Op Tripwire) :=
      [.rewrite [] url live.id 7, .rewrite [] url live.id 8, .start 0, .start 1, .finish 0, .finish 1]
    let d := (run engine ops start).2
    let e := (step engine .untilIdle d).2
    Contained engine ops d ∧ (step engine .untilIdle d).1 = .error .value ∧ e.inFlight = 1 ∧
      invoked (run engine [.ready] e).2.stage.effects = [7, 8] := by
  intro live url engine start ops d e
  exact ⟨panics_contained engine (n := 2) rfl ops, by decide, by decide, by decide +kernel⟩

end Dispatcher

end FilterDispatch
