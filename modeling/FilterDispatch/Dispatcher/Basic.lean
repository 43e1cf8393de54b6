import FilterDispatch.Dispatcher.Job

/-!
The dispatcher.  A call looks up its frame, the pages above it and their site key at once, posts a
job that carries them, and is answered when the outcome of the job is delivered.  Observers hear of
an outcome only if the frame is still alive then.
-/

namespace FilterDispatch

structure Dispatcher (σ : Type) where
  observers : ObserverList := {}
  queue : WorkQueue Job JobOutput
  pending : List (JobId × Pending) := []
  stage : Stage σ

namespace Dispatcher

variable {σ : Type}

def new (maxConcurrent : Nat) (host : σ) : Except Panic (Dispatcher σ) :=
  match WorkQueue.new maxConcurrent with
  | .ok queue => .ok { queue, stage := { host } }
  | .error p => .error p

def inFlight (d : Dispatcher σ) : Nat :=
  d.queue.inFlight

def addObserver (o : ObserverId) (d : Dispatcher σ) : Dispatcher σ :=
  { d with observers := (d.observers.add o).2 }

def removeObserver (o : ObserverId) (d : Dispatcher σ) : Dispatcher σ :=
  { d with observers := (d.observers.remove o).2 }

/-- Something on the control sequence that leaves jobs and registrations alone. -/
def onStage {α : Type} (m : Control (Stage σ) α) : Control (Dispatcher σ) α := fun d =>
  match m d.stage with
  | .ok a s => .ok a { d with stage := s }
  | .error p s => .error p { d with stage := s }

/-- Posts a job and keeps what its outcome will need. -/
def post (job : Job) (entry : Pending) : Control (Dispatcher σ) Unit :=
  modify fun d =>
    let (id, queue) := d.queue.post job
    { d with queue, pending := d.pending ++ [(id, entry)] }

def takePending (id : JobId) : Control (Dispatcher σ) (Option Pending) := do
  let found := (← get).pending.lookup id
  modify fun d => { d with pending := d.pending.filter fun e => e.1 ≠ id }
  return found

variable [Host σ]

def inPass (m : Control (Stage σ) Unit) : Control (ObserverList × Stage σ) Unit := fun s =>
  match m s.2 with
  | .ok a t => .ok a (s.1, t)
  | .error p t => .error p (s.1, t)

def announce (n : Notification) : Control (Dispatcher σ) Unit := do
  onStage (Stage.note (.pass n))
  fun d =>
    let owned (s : Stage σ) : ObserverId → Bool := Host.owned s.host
    match ObserverList.notify owned (fun o => inPass (Stage.tell o n)) (d.observers, d.stage) with
    | .ok _ (observers, stage) => .ok () { d with observers, stage }
    | .error p (observers, stage) => .error p { d with observers, stage }

def wantsSocketUpgrade : Panic :=
  .message "use evaluate_request_for_socket_upgrade"

def noSocketUpgrade (url : Url) : Panic :=
  .message ("socket upgrade to " ++ url.text)

/-- Without a frame no filter can be shown to apply, and the load goes on. -/
def classifyRequest (snapshot : Snapshot) (url : Url) (contentType : ContentType) (frame : FrameId)
    (callback : CallId) : Control (Dispatcher σ) Unit := do
  match ← onStage (Stage.context frame) with
  | none => onStage (Stage.answer callback (.result .noRule))
  | some (live, ancestors) =>
    let siteKey ← onStage (Stage.siteKeyFor ancestors)
    post (.classify (.request snapshot url ancestors contentType siteKey))
      (.resource { url, ancestors, contentType, frame := live.id, callback })

/-- Requests for sockets have a call of their own. -/
def request (snapshot : Snapshot) (url : Url) (contentType : ContentType) (frame : FrameId)
    (callback : CallId) : Control (Dispatcher σ) Unit := do
  if contentType = .websocket ∨ url.isWebSocket then throw wantsSocketUpgrade
  classifyRequest snapshot url contentType frame callback

def socketUpgrade (snapshot : Snapshot) (url : Url) (frame : FrameId) (callback : CallId) :
    Control (Dispatcher σ) Unit := do
  if !url.isWebSocket then throw (noSocketUpgrade url)
  classifyRequest snapshot url .websocket frame callback

def response (snapshot : Snapshot) (url : Url) (contentType : ContentType) (frame : FrameId)
    (headers : Headers) (callback : CallId) : Control (Dispatcher σ) Unit := do
  match ← onStage (Stage.context frame) with
  | none => onStage (Stage.answer callback (.result .noRule))
  | some (live, ancestors) =>
    post (.classify (.response snapshot url ancestors contentType headers))
      (.resource { url, ancestors, contentType, frame := live.id, callback })

/-- A main document is always let through; only observers may hear of it. -/
def checkDocument (snapshot : Snapshot) (url : Url) (frame : FrameId) :
    Control (Dispatcher σ) Unit :=
  post (.allowlist snapshot url) (.document url frame)

def rewrite (snapshot : Snapshot) (url : Url) (frame : FrameId) (callback : CallId) :
    Control (Dispatcher σ) Unit := do
  match ← onStage (Stage.context frame) with
  | none => onStage (Stage.answer callback (.rewrite none))
  | some (_, ancestors) => post (.rewrite snapshot url ancestors) (.rewrite url callback)

/-- A popup is classified in line. -/
def popup (snapshot : Snapshot) (url : Url) (frame : FrameId) :
    Control (Dispatcher σ) MatchResult := do
  match ← onStage (Stage.context frame) with
  | none => return .noRule
  | some (live, ancestors) =>
    let siteKey ← onStage (Stage.siteKeyFor ancestors)
    let c ← onStage (Stage.classify (.popup snapshot url ancestors siteKey))
    match c.subscription? with
    | none => return c.result
    | some subscription =>
      let opener := ancestors.head?
      announce (.popupMatched { url, result := c.result, opener, frame := live, subscription })
      return c.result

/-- The load waits for its answer whether or not the frame is still there. -/
def resourceClassified (r : Resource) (c : Classification) : Control (Dispatcher σ) Unit := do
  onStage (Stage.answer r.callback (.result c.result))
  match c.subscription? with
  | none => return ()
  | some subscription =>
    match ← onStage (Stage.resolve r.frame) with
    | none => return ()
    | some frame =>
      announce (.adMatched
        { url := r.url, result := c.result, ancestors := r.ancestors, contentType := r.contentType,
          frame, subscription })

def documentChecked (url : Url) (frame : FrameId) (subscription? : Option Url) :
    Control (Dispatcher σ) Unit := do
  match subscription? with
  | none => return ()
  | some subscription =>
    match ← onStage (Stage.resolve frame) with
    | none => return ()
    | some frame => announce (.pageAllowed { url, frame, subscription })

/-- A job without a usable output decides nothing. -/
def abandon : Pending → Control (Dispatcher σ) Unit
  | .resource r => onStage (Stage.answer r.callback (.result .noRule))
  | .document _ _ => return ()
  | .rewrite _ callback => onStage (Stage.answer callback (.rewrite none))

/-- An output has to be of the kind that the job was posted for. -/
def settle : Pending → Except JobError JobOutput → Control (Dispatcher σ) Unit
  | .resource r, .ok (.classified c) => resourceClassified r c
  | .document url frame, .ok (.allowlisted subscription?) => documentChecked url frame subscription?
  | .rewrite _ callback, .ok (.rewritten target) => onStage (Stage.answer callback (.rewrite target))
  | entry, _ => abandon entry

/-- Delivers an outcome; one of a job that nothing is kept for is passed over. -/
def complete (f : Finished JobOutput) : Control (Dispatcher σ) Unit := do
  match ← takePending f.id with
  | none => return ()
  | some entry => settle entry f.output

/-- What asking for the next outcome came to. -/
inductive Progress
  | idle | pending | delivered
  deriving DecidableEq, Repr

def processNext : Control (Dispatcher σ) Progress := do
  match (← get).queue.next with
  | .idle => return .idle
  | .pending => return .pending
  | .taken f queue =>
    modify fun d => { d with queue }
    complete f
    return .delivered

/-- Delivers at most so many outcomes that are there, and says how many. -/
def processAtMost : Nat → Control (Dispatcher σ) Nat
  | 0 => return 0
  | n + 1 => do
    match (← get).queue.tryNext with
    | none => return 0
    | some (f, queue) =>
      modify fun d => { d with queue }
      complete f
      return (← processAtMost n) + 1

def processReady : Control (Dispatcher σ) Nat := do
  processAtMost (← get).queue.finished.length

/-- Delivers one outcome after the other for as long as there is one. -/
def runFor : Nat → Control (Dispatcher σ) Progress
  | 0 => return .pending
  | n + 1 => do
    match ← processNext with
    | .delivered => runFor n
    | p => return p

/-- Ends with `pending` if it would have to wait for a job that still runs. -/
def runUntilIdle : Control (Dispatcher σ) Progress := do
  runFor ((← get).queue.finished.length + 1)

end Dispatcher

end FilterDispatch
