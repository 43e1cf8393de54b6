import FilterDispatch.Dispatcher.Run
import FilterDispatch.Proofs.Dispatcher.Stage

/-!
Calls with a callback.  All of them go one way: the host shows the frame, and either the callback is
answered at once or a job is posted that asks a question.
-/

namespace FilterDispatch

inductive JobKind
  | classification | allowlisting | rewriting
  deriving DecidableEq

def Job.kind : Job → JobKind
  | .classify _ => .classification
  | .allowlist _ _ => .allowlisting
  | .rewrite _ _ _ => .rewriting

def Pending.kind : Pending → JobKind
  | .resource _ => .classification
  | .document _ _ => .allowlisting
  | .rewrite _ _ => .rewriting

def Pending.callback? : Pending → Option CallId
  | .resource r => some r.callback
  | .document _ _ => none
  | .rewrite _ callback => some callback

/-- What the host shows of a frame that is there. -/
structure Sight where
  live : LiveFrame
  ancestors : List Url
  siteKey : SiteKey := {}

/-- All that the answer to a call depends on, once its frame is there. -/
inductive Question
  | classify (call : EngineCall)
  | rewrite (snapshot : Snapshot) (url : Url) (ancestors : List Url)

namespace Question

def job : Question → Job
  | .classify call => .classify call
  | .rewrite snapshot url ancestors => .rewrite snapshot url ancestors

/-- An evaluation that panics decides nothing. -/
def answer (engine : Engine) : Question → Answer
  | .classify call =>
    .result (match engine.classify call with
      | .ok c => c.result
      | .error _ => .noRule)
  | .rewrite snapshot url ancestors =>
    .rewrite (match (snapshot.firstRewriteTarget url ancestors).outcome with
      | .ok target => target
      | .error _ => none)

end Question

/-- A call with a callback: what it is told without a frame, whether it looks for a site key, what
it asks and what is kept for it meanwhile. -/
structure Call where
  frame : FrameId
  callback : CallId
  denied : Answer
  asksSiteKey : Bool
  question : Sight → Question
  entry : Sight → Pending
  own : ∀ s, (entry s).callback? = some callback
  fits : ∀ s, (entry s).kind = (question s).job.kind

namespace Call

def request (snapshot : Snapshot) (url : Url) (contentType : ContentType) (frame : FrameId)
    (callback : CallId) : Call where
  frame
  callback
  denied := .result .noRule
  asksSiteKey := true
  question s := .classify (.request snapshot url s.ancestors contentType s.siteKey)
  entry s := .resource { url, ancestors := s.ancestors, contentType, frame := s.live.id, callback }
  own _ := rfl
  fits _ := rfl

def response (snapshot : Snapshot) (url : Url) (contentType : ContentType) (frame : FrameId)
    (headers : Headers) (callback : CallId) : Call where
  frame
  callback
  denied := .result .noRule
  asksSiteKey := false
  question s := .classify (.response snapshot url s.ancestors contentType headers)
  entry s := .resource { url, ancestors := s.ancestors, contentType, frame := s.live.id, callback }
  own _ := rfl
  fits _ := rfl

def rewrite (snapshot : Snapshot) (url : Url) (frame : FrameId) (callback : CallId) : Call where
  frame
  callback
  denied := .rewrite none
  asksSiteKey := false
  question s := .rewrite snapshot url s.ancestors
  entry _ := .rewrite url callback
  own _ := rfl
  fits _ := rfl

variable {σ : Type} [Host σ]

/-- What the host answers to a call, one question after the other. -/
def look (c : Call) : Control σ (Option Sight) := do
  match ← Host.resolve c.frame with
  | none => return none
  | some live =>
    let ancestors ← Host.ancestorChain live
    if c.asksSiteKey then
      let found ← Host.findSiteKey ancestors
      return some { live, ancestors, siteKey := Stage.keyOf found }
    else return some { live, ancestors }

theorem look_eq_none (c : Call) {h k : σ} :
    c.look h = .ok none k ↔ Host.resolve c.frame h = .ok none k := by
  simp only [look, Control.bind_eq_ok]
  constructor
  · rintro ⟨found, h', resolved, rest⟩
    cases found with
    | none =>
        cases rest
        exact resolved
    | some live =>
        obtain ⟨chain, h'', -, rest⟩ := Control.bind_eq_ok.mp rest
        split at rest
        · obtain ⟨key, l, -, rest⟩ := Control.bind_eq_ok.mp rest
          cases rest
        · cases rest
  · intro resolved
    exact ⟨none, k, resolved, rfl⟩

def see (c : Call) : Control (Stage σ) (Option Sight) := do
  match ← Stage.context c.frame with
  | none => return none
  | some (live, ancestors) =>
    if c.asksSiteKey then
      let siteKey ← Stage.siteKeyFor ancestors
      return some { live, ancestors, siteKey }
    else return some { live, ancestors }

def inquiries (c : Call) : Option Sight → List Effect
  | none => [.resolved c.frame none]
  | some s =>
    [.resolved c.frame (some s.live), .ancestorsOf s.live] ++
      if c.asksSiteKey then [.siteKeyFor s.ancestors] else []

theorem inquiries_answer? (c : Call) (found : Option Sight) :
    (c.inquiries found).filterMap Effect.answer? = [] := by
  cases found with
  | none => rfl
  | some s => by_cases asks : c.asksSiteKey <;> simp [inquiries, asks, Effect.answer?]

theorem inquiries_pass? (c : Call) (found : Option Sight) :
    (c.inquiries found).filterMap Effect.pass? = [] := by
  cases found with
  | none => rfl
  | some s => by_cases asks : c.asksSiteKey <;> simp [inquiries, asks, Effect.pass?]

/-- The stage asks what the host is asked, and its journal has what was answered. -/
theorem see_cases (c : Call) (s : Stage σ) :
    (∃ found h, c.look s.host = .ok found h ∧ c.see s = .ok found (s.log (c.inquiries found) h)) ∨
    ∃ p h found new, c.look s.host = .error p h ∧ c.see s = .error p (s.log new h) ∧
      new <+: c.inquiries found := by
  simp only [see, look, Stage.context, Control.bind_apply, Stage.resolve_apply]
  cases Host.resolve c.frame s.host with
  | error p h => exact .inr ⟨p, h, none, [], rfl, rfl, List.nil_prefix⟩
  | ok shown h =>
      cases shown with
      | none => exact .inl ⟨none, h, rfl, rfl⟩
      | some live =>
          simp only [Control.bind_apply, Stage.ancestorsOf_apply, Stage.log_host, Stage.log_log]
          cases Host.ancestorChain live h with
          | error p k => exact .inr ⟨p, k, some ⟨live, [], {}⟩, _, rfl, rfl, ⟨_, rfl⟩⟩
          | ok chain k =>
              by_cases asks : c.asksSiteKey
              · simp only [asks, if_true, Control.pure_apply, Control.bind_apply,
                  Stage.siteKeyFor_apply, Stage.log_host, Stage.log_log]
                cases Host.findSiteKey chain k with
                | error p l =>
                    refine .inr ⟨p, l, some ⟨live, chain, {}⟩, _, rfl, rfl, ?_⟩
                    simp [inquiries, asks]
                | ok key l => exact .inl ⟨_, l, rfl, by simp [inquiries, asks]⟩
              · simp only [asks, Bool.false_eq_true, if_false, Control.pure_apply]
                exact .inl ⟨_, k, rfl, by simp [inquiries, asks]⟩

end Call

namespace Dispatcher

variable {σ : Type}

def logged (new : List Effect) (h : σ) (d : Dispatcher σ) : Dispatcher σ :=
  { d with stage := d.stage.log new h }

@[simp] theorem logged_host (new : List Effect) (h : σ) (d : Dispatcher σ) :
    (d.logged new h).stage.host = h := rfl

@[simp] theorem logged_effects (new : List Effect) (h : σ) (d : Dispatcher σ) :
    (d.logged new h).stage.effects = d.stage.effects ++ new :=
  Stage.effects_log new h d.stage

@[simp] theorem logged_logged (new later : List Effect) (h k : σ) (d : Dispatcher σ) :
    (d.logged new h).logged later k = d.logged (new ++ later) k := by
  simp [logged]

def posting (job : Job) (entry : Pending) (d : Dispatcher σ) : Dispatcher σ :=
  { d with queue := (d.queue.post job).2, pending := d.pending ++ [(d.queue.nextId, entry)] }

theorem onStage_apply {α : Type} (m : Control (Stage σ) α) (d : Dispatcher σ) :
    onStage m d = match m d.stage with
      | .ok a s => .ok a { d with stage := s }
      | .error p s => .error p { d with stage := s } := rfl

theorem onStage_pure {α : Type} (a : α) :
    onStage (pure a : Control (Stage σ) α) = (pure a : Control (Dispatcher σ) α) := rfl

theorem onStage_bind {α β : Type} (m : Control (Stage σ) α) (f : α → Control (Stage σ) β) :
    onStage (m >>= f) = (onStage m >>= fun a => onStage (f a) : Control (Dispatcher σ) β) := by
  funext d
  simp only [onStage_apply, Control.bind_apply]
  cases m d.stage with
  | ok a s => rfl
  | error p s => rfl

theorem onStage_eq_ok {α : Type} {m : Control (Stage σ) α} {d e : Dispatcher σ} {a : α} :
    onStage m d = .ok a e ↔ ∃ s, m d.stage = .ok a s ∧ e = { d with stage := s } := by
  rw [onStage_apply]
  cases m d.stage with
  | ok b s => simp [and_assoc, eq_comm]
  | error p s => simp

theorem onStage_eq_error {α : Type} {m : Control (Stage σ) α} {d e : Dispatcher σ} {p : Panic} :
    onStage m d = .error p e ↔ ∃ s, m d.stage = .error p s ∧ e = { d with stage := s } := by
  rw [onStage_apply]
  cases m d.stage with
  | ok b s => simp
  | error q s => simp [and_assoc, eq_comm]

/-- Jobs and registrations stay, and the journal grows by effects of one kind. -/
structure Keeps (P : Effect → Prop) (d e : Dispatcher σ) : Prop where
  queue : e.queue = d.queue
  pending : e.pending = d.pending
  adds : Stage.Adds P d.stage e.stage

instance (P : Effect → Prop) : IsPreorder (Dispatcher σ) (Keeps P) where
  refl d := ⟨rfl, rfl, refl_of (Stage.Adds P) d.stage⟩
  trans _ _ _ first later :=
    ⟨later.queue.trans first.queue, later.pending.trans first.pending,
      trans_of (Stage.Adds P) first.adds later.adds⟩

theorem Keeps.mono {P Q : Effect → Prop} {d e : Dispatcher σ} (kept : Keeps P d e)
    (weaker : ∀ x, P x → Q x) : Keeps Q d e := by
  obtain ⟨queue, pending, new, grown, all⟩ := kept
  exact ⟨queue, pending, new, grown, fun x member => weaker x (all x member)⟩

theorem logged_keeps (new : List Effect) (h : σ) (d : Dispatcher σ) :
    Keeps (fun _ => True) d (d.logged new h) :=
  ⟨rfl, rfl, Stage.adds_log d.stage h fun _ _ => trivial⟩

variable [Host σ]

/-- The one way that all calls with a callback go. -/
def place (c : Call) : Control (Dispatcher σ) Unit := do
  match ← onStage c.see with
  | none => onStage (Stage.answer c.callback c.denied)
  | some sight => post (c.question sight).job (c.entry sight)

theorem classifyRequest_eq (snapshot : Snapshot) (url : Url) (contentType : ContentType)
    (frame : FrameId) (callback : CallId) :
    (classifyRequest snapshot url contentType frame callback : Control (Dispatcher σ) Unit) =
      place (.request snapshot url contentType frame callback) := by
  simp only [classifyRequest, place, Call.see, Call.request, if_true, onStage_bind, bind_assoc]
  congr 1
  funext found
  cases found with
  | none => rfl
  | some shown => simp only [onStage_bind, onStage_pure, bind_assoc, pure_bind]; rfl

theorem response_eq (snapshot : Snapshot) (url : Url) (contentType : ContentType)
    (frame : FrameId) (headers : Headers) (callback : CallId) :
    (response snapshot url contentType frame headers callback : Control (Dispatcher σ) Unit) =
      place (.response snapshot url contentType frame headers callback) := by
  simp only [response, place, Call.see, Call.response, onStage_bind, bind_assoc]
  congr 1
  funext found
  cases found with
  | none => rfl
  | some shown => rfl

theorem rewrite_eq (snapshot : Snapshot) (url : Url) (frame : FrameId) (callback : CallId) :
    (rewrite snapshot url frame callback : Control (Dispatcher σ) Unit) =
      place (.rewrite snapshot url frame callback) := by
  simp only [rewrite, place, Call.see, Call.rewrite, onStage_bind, bind_assoc]
  congr 1
  funext found
  cases found with
  | none => rfl
  | some shown => rfl

/-- The ways in which a call can go, with all that each of them does. -/
inductive Called (c : Call) (d : Dispatcher σ) : EStateM.Result Panic (Dispatcher σ) Unit → Prop
  | hostPanics {p h found new} : c.look d.stage.host = .error p h → new <+: c.inquiries found →
      Called c d (.error p (d.logged new h))
  | callbackPanics {h p k} : c.look d.stage.host = .ok none h →
      Host.receive c.callback c.denied h = .error p k →
      Called c d
        (.error p (d.logged (c.inquiries none ++ [.callback c.callback c.denied]) k))
  | denied {h k} : c.look d.stage.host = .ok none h →
      Host.receive c.callback c.denied h = .ok () k →
      Called c d (.ok () (d.logged (c.inquiries none ++ [.callback c.callback c.denied]) k))
  | posted {sight h} : c.look d.stage.host = .ok (some sight) h →
      Called c d (.ok ()
        ((d.logged (c.inquiries (some sight)) h).posting (c.question sight).job (c.entry sight)))

theorem called_cases (c : Call) (d : Dispatcher σ) : Called c d (place c d) := by
  unfold place
  rcases c.see_cases d.stage with
    ⟨found, h, looked, seen⟩ | ⟨p, h, found, new, looked, seen, first⟩
  · have shown : onStage c.see d = .ok found (d.logged (c.inquiries found) h) :=
      onStage_eq_ok.mpr ⟨_, seen, rfl⟩
    rw [Control.bind_of_ok _ shown]
    cases found with
    | some sight => exact .posted looked
    | none =>
        simp only [onStage_apply, Stage.answer_apply, logged, Stage.log_host, Stage.log_log]
        cases received : Host.receive c.callback c.denied h with
        | ok _ k => exact .denied looked received
        | error p k => exact .callbackPanics looked received
  · have failed : onStage c.see d = .error p (d.logged new h) := onStage_eq_error.mpr ⟨_, seen, rfl⟩
    rw [Control.bind_of_error _ failed]
    exact .hostPanics looked first

theorem place_eq_ok {c : Call} {d e : Dispatcher σ} :
    place c d = .ok () e ↔
      (∃ h k, c.look d.stage.host = .ok none h ∧ Host.receive c.callback c.denied h = .ok () k ∧
        e = d.logged (c.inquiries none ++ [.callback c.callback c.denied]) k) ∨
      ∃ sight h, c.look d.stage.host = .ok (some sight) h ∧
        e = (d.logged (c.inquiries (some sight)) h).posting (c.question sight).job
          (c.entry sight) := by
  have ways := called_cases c d
  generalize place c d = outcome at ways
  cases ways with
  | hostPanics looked first => simp [looked]
  | callbackPanics looked received => simp [looked, received]
  | denied looked received => simp [looked, received, eq_comm]
  | posted looked =>
      simp only [looked, EStateM.Result.ok.injEq, true_and, reduceCtorEq, false_and, exists_false,
        false_or, Option.some.injEq]
      constructor
      · rintro rfl
        exact ⟨_, _, ⟨rfl, rfl⟩, rfl⟩
      · rintro ⟨_, _, ⟨rfl, rfl⟩, rfl⟩
        rfl

/-- A question to the host tells nobody anything. -/
def Inquiring (x : Effect) : Prop :=
  x.answer? = none ∧ x.pass? = none

/-- Up to its job a call does nothing but ask the host and, at most, answer its own callback. -/
def Asking (c : Call) (x : Effect) : Prop :=
  x.pass? = none ∧ ∀ call a, x.answer? = some (call, a) → call = c.callback

omit [Host σ] in
theorem inquiries_inquiring (c : Call) (found : Option Sight) :
    ∀ x ∈ c.inquiries found, Inquiring x := by
  intro x member
  exact ⟨List.filterMap_eq_nil_iff.mp (c.inquiries_answer? found) x member,
    List.filterMap_eq_nil_iff.mp (c.inquiries_pass? found) x member⟩

/-- A call that panics posts nothing; at most it begins to answer its own callback. -/
structure Fails (c : Call) (d e : Dispatcher σ) : Prop where
  queue : e.queue = d.queue
  pending : e.pending = d.pending
  journal : ∃ asked told, e.stage.effects = d.stage.effects ++ (asked ++ told) ∧
    (∀ x ∈ asked, Inquiring x) ∧ told.Sublist [Effect.callback c.callback c.denied]

omit [Host σ] in
theorem Fails.keeps {c : Call} {d e : Dispatcher σ} (fails : Fails c d e) : Keeps (Asking c) d e := by
  obtain ⟨asked, told, grown, inquiring, once⟩ := fails.journal
  refine ⟨fails.queue, fails.pending, _, grown, ?_⟩
  intro x member
  rcases List.mem_append.mp member with first | last
  · obtain ⟨none, none'⟩ := inquiring x first
    exact ⟨none', by simp [none]⟩
  · rw [List.mem_singleton.mp (once.subset last)]
    simp [Asking, Effect.pass?, Effect.answer?]

theorem place_panicked {c : Call} {d e : Dispatcher σ} {p : Panic} (h : place c d = .error p e) :
    Fails c d e := by
  have ways := called_cases c d
  rw [h] at ways
  cases ways with
  | @hostPanics _ _ found new looked first =>
      refine ⟨rfl, rfl, new, [], by simp [logged], ?_, List.nil_sublist _⟩
      exact fun x member => inquiries_inquiring c found x (first.subset member)
  | callbackPanics looked received =>
      exact ⟨rfl, rfl, c.inquiries none, _, by simp [logged], inquiries_inquiring c none,
        List.Sublist.refl _⟩

end Dispatcher

end FilterDispatch
