import FilterDispatch.Proofs.Dispatcher.Outcomes
import FilterDispatch.Proofs.Observer.Passes
import FilterDispatch.Proofs.Scenario.Tables

/-!
Scenes.  Of a dispatcher that serves a scenario only its registrations and the scenario's world
count, next to a job that is on its way.  Whether an event is done at once or waits for its job, it
comes to what its evaluation says.
-/

namespace FilterDispatch

open Scenario (Event FrameTable Table World counter keeper)

/-- What a dispatcher for a scenario looks like between its jobs. -/
structure Scene where
  observers : List ObserverId
  world : World

namespace Scene

def withFrames (frames : FrameTable) (x : Scene) : Scene :=
  { x with world := { x.world with frames } }

def hear (x : Scene) (n : Notification) : Scene :=
  { x with world := x.observers.foldl (fun w o => w.observe o n) x.world }

/-- What is reported of a frame if it is there. -/
def tell (frame : FrameId) (event : LiveFrame → Notification) (x : Scene) : Scene :=
  let (notifications, frames) := x.world.frames.tell frame event
  notifications.foldl hear (x.withFrames frames)

/-- An event is evaluated, and the observers hear what it caused. -/
def play (tables : List Table) (e : Event) (x : Scene) : Reply × Scene :=
  let (outcome, frames) := e.evaluate tables x.world.frames
  (outcome.reply, outcome.notifications.foldl hear (x.withFrames frames))

/-- The scene serves a scenario, and only the two observers of a replay are registered. -/
structure Serves (s : Scenario) (x : Scene) : Prop where
  tables : x.world.tables = s.ownTables
  own : ∀ o ∈ x.observers, o = keeper ∨ o = counter

theorem Serves.withFrames {s : Scenario} {x : Scene} (serves : x.Serves s) (frames : FrameTable) :
    (x.withFrames frames).Serves s :=
  ⟨serves.tables, serves.own⟩

end Scene

namespace Scenario.World

theorem observe_tables (o : ObserverId) (n : Notification) (w : World) :
    (w.observe o n).tables = w.tables := by
  unfold observe
  split
  · rfl
  · split <;> rfl

theorem foldl_observe_tables (os : List ObserverId) (n : Notification) (w : World) :
    (os.foldl (fun w o => w.observe o n) w).tables = w.tables := by
  induction os generalizing w with
  | nil => rfl
  | cons o rest ih => rw [List.foldl_cons, ih, observe_tables]

theorem owned_own (w : World) {o : ObserverId} (own : o = keeper ∨ o = counter) :
    Host.owned w o = true := by
  rcases own with rfl | rfl <;> rfl

end Scenario.World

namespace Scene

theorem foldl_hear_observers (ns : List Notification) (x : Scene) :
    (ns.foldl hear x).observers = x.observers := by
  induction ns generalizing x with
  | nil => rfl
  | cons n rest ih => exact ih (x.hear n)

theorem Serves.hear {s : Scenario} {x : Scene} (serves : x.Serves s) (n : Notification) :
    (x.hear n).Serves s :=
  ⟨(World.foldl_observe_tables x.observers n x.world).trans serves.tables, serves.own⟩

theorem Serves.foldl_hear {s : Scenario} {x : Scene} (serves : x.Serves s)
    (ns : List Notification) : (ns.foldl Scene.hear x).Serves s := by
  induction ns generalizing x with
  | nil => exact serves
  | cons n rest ih => exact ih (serves.hear n)

theorem Serves.play {s : Scenario} {x : Scene} (serves : x.Serves s) (tables : List Table)
    (e : Event) : (x.play tables e).2.Serves s :=
  (serves.withFrames _).foldl_hear _

end Scene

/-- A job on its way, and what is kept for its outcome. -/
structure Load where
  job : Job
  entry : Pending

namespace Load

def output (engine : Engine) (l : Load) : Except JobError JobOutput :=
  (l.job.run engine).mapError JobError.ofPanic

/-- The callback that will be answered, and what it will be told. -/
def reply? (engine : Engine) (l : Load) : Option (CallId × Answer) :=
  l.entry.reply? (l.output engine)

def settle (engine : Engine) (l : Load) (x : Scene) : Scene :=
  match l.entry.report? (l.output engine) with
  | none => x
  | some (frame, event) => x.tell frame event

theorem settle_observers (engine : Engine) (l : Load) (x : Scene) :
    (l.settle engine x).observers = x.observers := by
  unfold settle
  cases l.entry.report? (l.output engine) with
  | none => rfl
  | some due => exact Scene.foldl_hear_observers _ _

theorem settle_serves {s : Scenario} {x : Scene} (engine : Engine) (l : Load)
    (serves : x.Serves s) : (l.settle engine x).Serves s := by
  unfold settle
  cases l.entry.report? (l.output engine) with
  | none => exact serves
  | some due => exact (serves.withFrames _).foldl_hear _

end Load

namespace Dispatcher

/-- The dispatcher with another host, whatever was noted on the way. -/
structure Becomes {σ : Type} (d : Dispatcher σ) (h : σ) (e : Dispatcher σ) : Prop where
  observers : e.observers = d.observers
  queue : e.queue = d.queue
  pending : e.pending = d.pending
  host : e.stage.host = h

theorem Becomes.trans {σ : Type} {d e f : Dispatcher σ} {h k : σ} (first : d.Becomes h e)
    (later : e.Becomes k f) : d.Becomes k f :=
  ⟨later.observers.trans first.observers, later.queue.trans first.queue,
    later.pending.trans first.pending, later.host⟩

theorem Becomes.stays {σ : Type} {d e f : Dispatcher σ} {h : σ} (first : d.Becomes h e)
    (later : e.Becomes e.stage.host f) : d.Becomes h f :=
  first.trans (first.host ▸ later)

theorem logged_becomes {σ : Type} (new : List Effect) (h : σ) (d : Dispatcher σ) :
    d.Becomes h (d.logged new h) :=
  ⟨rfl, rfl, rfl, rfl⟩

def scene (d : Dispatcher (Desk World)) : Scene :=
  ⟨d.observers.entries, d.stage.host.host⟩

theorem Becomes.scene_eq {d e : Dispatcher (Desk World)} {h : Desk World}
    (becomes : d.Becomes h e) : e.scene = ⟨d.observers.entries, h.host⟩ := by
  rw [scene, becomes.observers, becomes.host]

theorem passOver_world (n : Notification) (os : List ObserverId) (l : ObserverList)
    (s : Stage (Desk World)) (registered : ∀ o ∈ os, l.contains o = true) :
    ∃ t, ObserverList.passOver (fun o => inPass (Stage.tell o n)) os (l, s) = .ok () (l, t) ∧
      t.host = { s.host with host := os.foldl (fun w o => w.observe o n) s.host.host } := by
  induction os generalizing s with
  | nil => exact ⟨s, rfl, rfl⟩
  | cons o rest ih =>
      let told := s.log [.told o n] { s.host with host := s.host.host.observe o n }
      have telling : inPass (Stage.tell o n) (l, s) = .ok () (l, told) := by
        rw [inPass, Stage.tell_apply]
        rfl
      obtain ⟨t, passed, heard⟩ := ih told fun x member =>
        registered x (List.mem_cons_of_mem _ member)
      refine ⟨t, ?_, heard⟩
      rw [ObserverList.passOver_cons, if_pos (registered o List.mem_cons_self), telling]
      exact passed

theorem announce_world (n : Notification) (d : Dispatcher (Desk World)) {s : Scenario}
    (serves : d.scene.Serves s) : ∃ e, announce n d = .ok () e ∧
      d.Becomes { d.stage.host with host := (d.scene.hear n).world } e := by
  have whole : d.observers.prune (Host.owned d.stage.host) = d.observers := by
    have all : d.observers.entries.filter (d.observers.alive (Host.owned d.stage.host)) =
        d.observers.entries := by
      refine List.filter_eq_self.mpr fun o member => ?_
      have owned := World.owned_own d.stage.host.host (serves.own o member)
      exact Bool.or_eq_true_iff.mpr (.inl owned)
    rw [ObserverList.prune, all]
  let noted := d.stage.log [.pass n] d.stage.host
  have registered : ∀ o ∈ d.observers.entries, d.observers.collect.contains o = true :=
    fun o member => List.contains_iff_mem.mpr member
  obtain ⟨t, passed, heard⟩ :=
    passOver_world n d.observers.entries d.observers.collect noted registered
  have noting : onStage (Stage.note (.pass n)) d = .ok () { d with stage := noted } := rfl
  refine ⟨{ d with stage := t }, Control.bind_eq_ok.mpr ⟨(), _, noting, ?_⟩, rfl, rfl, rfl, heard⟩
  have told : ObserverList.passOver (fun o => inPass (Stage.tell o n))
      (d.observers.prune (Host.owned noted.host)).entries
      ((d.observers.prune (Host.owned noted.host)).collect, noted) =
      .ok () (d.observers.collect, t) := by
    rw [show d.observers.prune (Host.owned noted.host) = d.observers from whole]
    exact passed
  have notified := ObserverList.notify_of_ok (fun s : Stage (Desk World) => Host.owned s.host)
    d.observers noted told
  simp only [notified]
  rw [show d.observers.prune (Host.owned noted.host) = d.observers from whole]
  rfl

theorem resolve_world (frame : FrameId) (d : Desk World) :
    Host.resolve frame d = .ok (d.host.frames.resolve frame).1
      { d with host := { d.host with frames := (d.host.frames.resolve frame).2 } } :=
  rfl

theorem report_world (l : Load) (engine : Engine) (d : Dispatcher (Desk World)) {s : Scenario}
    (serves : d.scene.Serves s) : ∃ e, report l.entry (l.output engine) d = .ok () e ∧
      d.Becomes { d.stage.host with host := (l.settle engine d.scene).world } e := by
  unfold report Load.settle
  cases l.entry.report? (l.output engine) with
  | none => exact ⟨d, rfl, rfl, rfl, rfl, rfl⟩
  | some due =>
      obtain ⟨frame, event⟩ := due
      have looked := onStage_resolve frame d
      rw [resolve_world] at looked
      simp only [Control.bind_of_ok _ looked, Scene.tell, FrameTable.tell]
      rw [show d.scene.world.frames = d.stage.host.host.frames from rfl]
      generalize d.stage.host.host.frames.resolve frame = resolved at looked ⊢
      obtain ⟨found, frames⟩ := resolved
      cases found with
      | none => exact ⟨_, rfl, logged_becomes _ _ d⟩
      | some live =>
          let shown : Desk World :=
            { d.stage.host with host := { d.stage.host.host with frames } }
          have here := logged_becomes [.resolved frame (some live)] shown d
          have still : (d.logged [.resolved frame (some live)] shown).scene.Serves s :=
            serves.withFrames frames
          obtain ⟨e, announced, there⟩ := announce_world (event live) _ still
          exact ⟨e, announced, here.trans there⟩

def replied : Option (CallId × Answer) → List (CallId × Reply)
  | some (call, a) => [(call, .answer a)]
  | none => []

theorem settle_world (l : Load) (engine : Engine) (d : Dispatcher (Desk World)) {s : Scenario}
    (serves : d.scene.Serves s) : ∃ e, settle l.entry (l.output engine) d = .ok () e ∧
      d.Becomes ⟨(l.settle engine d.scene).world,
        replied (l.reply? engine) ++ d.stage.host.replies⟩ e := by
  have answered : ∃ e, reply l.entry (l.output engine) d = .ok () e ∧
      d.Becomes ⟨d.stage.host.host, replied (l.reply? engine) ++ d.stage.host.replies⟩ e := by
    rw [reply_apply, Pending.replied, Load.reply?]
    cases l.entry.reply? (l.output engine) with
    | none => exact ⟨_, rfl, logged_becomes _ _ d⟩
    | some told => exact ⟨_, rfl, logged_becomes _ _ d⟩
  obtain ⟨e, replies, here⟩ := answered
  have same : e.scene = d.scene := here.scene_eq
  obtain ⟨f, reported, there⟩ := report_world l engine e (same ▸ serves)
  refine ⟨f, ?_, ?_⟩
  · rw [settle_eq, Control.bind_of_ok _ replies]
    exact reported
  · rw [same, here.host] at there
    exact here.trans there

end Dispatcher

namespace Scenario

theorem play_resource_none {tables : List Table} {url : Url} {contentType : ContentType}
    {frame : FrameId} {e : Event} {x : Scene} {u : FrameTable}
    (resource : e.evaluate tables = evaluateResource tables url contentType frame)
    (gone : x.world.frames.resolve frame = (none, u)) :
    x.play tables e = (.answer (.result .noRule), x.withFrames u) := by
  simp only [Scene.play, resource, evaluateResource, gone]
  rfl

theorem play_resource_some {s : Scenario} {url : Url} {contentType : ContentType}
    {frame : FrameId} {e : Event} {x : Scene} {live : LiveFrame} {u : FrameTable} {q : EngineCall}
    {c : Classification} (callback : CallId) (verdict : verdict s.tables url = c)
    (resource : e.evaluate s.tables = evaluateResource s.tables url contentType frame)
    (found : x.world.frames.resolve frame = (some live, u)) (own : q.snapshot = s.snapshot)
    (asks : q.url = url) :
    let l : Load := ⟨.classify q,
      .resource { url, ancestors := u.ancestors live.id, contentType, frame := live.id, callback }⟩
    l.reply? (Scenario.engine s.ownTables) = some (callback, .result c.result) ∧
      x.play s.tables e =
        (.answer (.result c.result), l.settle (Scenario.engine s.ownTables) (x.withFrames u)) := by
  intro l
  have output : l.output (Scenario.engine s.ownTables) = .ok (.classified c) := by
    have ran : l.output (Scenario.engine s.ownTables) =
        .ok (.classified (classify s.ownTables q.snapshot q.url)) := rfl
    rw [ran, own, asks, s.classify_own, verdict]
  constructor
  · rw [Load.reply?, output]
    rfl
  · rw [Load.settle, output]
    simp only [Scene.play, resource, evaluateResource, found, verdict, l, Pending.report?]
    cases c.subscription? with
    | none => rfl
    | some subscription => rfl

theorem play_rewrite_none {tables : List Table} {url : Url} {frame : FrameId} {x : Scene}
    {u : FrameTable} (gone : x.world.frames.resolve frame = (none, u)) :
    x.play tables (.rewrite url frame) = (.answer (.rewrite none), x.withFrames u) := by
  simp only [Scene.play, Event.evaluate, evaluateRewrite, gone]
  rfl

theorem play_rewrite_some {s : Scenario} {url : Url} {frame : FrameId} {x : Scene}
    {live : LiveFrame} {u : FrameTable} (ancestors : List Url) (callback : CallId)
    (found : x.world.frames.resolve frame = (some live, u)) :
    let l : Load := ⟨.rewrite s.snapshot url ancestors, .rewrite url callback⟩
    l.reply? (Scenario.engine s.ownTables) =
        some (callback, .rewrite (rewriteTarget s.tables url)) ∧
      x.play s.tables (.rewrite url frame) = (.answer (.rewrite (rewriteTarget s.tables url)),
        l.settle (Scenario.engine s.ownTables) (x.withFrames u)) := by
  intro l
  have output : l.output (Scenario.engine s.ownTables) =
      .ok (.rewritten (rewriteTarget s.tables url)) := by
    have ran : l.output (Scenario.engine s.ownTables) =
        ((s.snapshot.firstRewriteTarget url ancestors).outcome.map .rewritten).mapError
          JobError.ofPanic := rfl
    rw [ran, s.firstRewriteTarget_own]
    rfl
  constructor
  · rw [Load.reply?, output]
    rfl
  · rw [Load.settle, output]
    simp only [Scene.play, Event.evaluate, evaluateRewrite, found]
    rfl

theorem play_document (s : Scenario) (url : Url) (frame : FrameId) (x : Scene) :
    let l : Load := ⟨.allowlist s.snapshot url, .document url frame⟩
    l.reply? (Scenario.engine s.ownTables) = none ∧
      x.play s.tables (.document url frame) =
        (.done, l.settle (Scenario.engine s.ownTables) x) := by
  intro l
  have output : l.output (Scenario.engine s.ownTables) =
      .ok (.allowlisted (documentSubscription s.tables url)) := by
    have ran : l.output (Scenario.engine s.ownTables) =
        ((s.snapshot.documentAllowlistedBy url).outcome.map .allowlisted).mapError
          JobError.ofPanic := rfl
    rw [ran, s.documentAllowlistedBy_own]
    rfl
  refine ⟨rfl, ?_⟩
  rw [Load.settle, output]
  simp only [Scene.play, Event.evaluate, evaluateDocument, l, Pending.report?]
  cases documentSubscription s.tables url with
  | none => rfl
  | some subscription => rfl

end Scenario

namespace Dispatcher

open Scenario (play_resource_none play_resource_some play_rewrite_none play_rewrite_some)

/-- What becomes of a call whose answer is due: it is answered at once, or when a job is done. -/
inductive Placed (engine : Engine) (call : CallId) (d : Dispatcher (Desk World)) (a : Answer) :
    Scene → Dispatcher (Desk World) → Prop
  | answered {frames e} :
      d.Becomes ⟨(d.scene.withFrames frames).world, (call, .answer a) :: d.stage.host.replies⟩ e →
      Placed engine call d a (d.scene.withFrames frames) e
  | posted {frames e} {l : Load} :
      d.Becomes ⟨(d.scene.withFrames frames).world, d.stage.host.replies⟩ e →
      l.reply? engine = some (call, a) →
      Placed engine call d a (l.settle engine (d.scene.withFrames frames)) (e.posting l.job l.entry)

theorem look_world (c : Call) (d : Desk World) : c.look d =
    let world : World := { d.host with frames := (d.host.frames.resolve c.frame).2 }
    match (d.host.frames.resolve c.frame).1 with
    | none => .ok none { d with host := world }
    | some live =>
      let ancestors := world.frames.ancestors live.id
      let siteKey := if c.asksSiteKey then Stage.keyOf (Scenario.siteKeyIn world.siteKeys ancestors)
        else {}
      .ok (some { live, ancestors, siteKey }) { d with host := world } := by
  rw [Call.look, Control.bind_of_ok _ (resolve_world c.frame d)]
  cases (d.host.frames.resolve c.frame).1 with
  | none => rfl
  | some live => cases c.asksSiteKey <;> rfl

theorem place_none {c : Call} {d : Dispatcher (Desk World)} {u : FrameTable}
    (gone : d.scene.world.frames.resolve c.frame = (none, u)) : ∃ e, place c d = .ok () e ∧
      d.Becomes ⟨(d.scene.withFrames u).world,
        (c.callback, .answer c.denied) :: d.stage.host.replies⟩ e := by
  have looked := look_world c d.stage.host
  rw [show d.stage.host.host.frames.resolve c.frame = (none, u) from gone] at looked
  exact ⟨_, place_eq_ok.mpr (.inl ⟨_, _, looked, rfl, rfl⟩), logged_becomes _ _ d⟩

theorem place_some {c : Call} {d : Dispatcher (Desk World)} {live : LiveFrame} {u : FrameTable}
    (found : d.scene.world.frames.resolve c.frame = (some live, u)) : ∃ (sight : Sight) (e : _),
      sight.live = live ∧ sight.ancestors = u.ancestors live.id ∧
      place c d = .ok () (e.posting (c.question sight).job (c.entry sight)) ∧
      d.Becomes ⟨(d.scene.withFrames u).world, d.stage.host.replies⟩ e := by
  have looked := look_world c d.stage.host
  rw [show d.stage.host.host.frames.resolve c.frame = (some live, u) from found] at looked
  exact ⟨_, _, rfl, rfl, place_eq_ok.mpr (.inr ⟨_, _, looked, rfl⟩), logged_becomes _ _ d⟩

theorem place_resource {s : Scenario} {c : Call} {e : Event} {url : Url} {contentType : ContentType}
    (d : Dispatcher (Desk World))
    (resource : e.evaluate s.tables = Scenario.evaluateResource s.tables url contentType c.frame)
    (denied : c.denied = .result .noRule) (question : Sight → EngineCall)
    (asked : ∀ sight, c.question sight = .classify (question sight))
    (own : ∀ sight, (question sight).snapshot = s.snapshot)
    (about : ∀ sight, (question sight).url = url)
    (entry : ∀ sight, c.entry sight = .resource
      { url, ancestors := sight.ancestors, contentType, frame := sight.live.id,
        callback := c.callback }) :
    ∃ a x f, d.scene.play s.tables e = (.answer a, x) ∧ place c d = .ok () f ∧
      Placed (Scenario.engine s.ownTables) c.callback d a x f := by
  cases resolved : d.scene.world.frames.resolve c.frame with
  | mk found u =>
      cases found with
      | none =>
          obtain ⟨f, placed, becomes⟩ := place_none resolved
          refine ⟨_, _, f, play_resource_none resource resolved, placed, ?_⟩
          rw [denied] at becomes
          exact .answered becomes
      | some live =>
          obtain ⟨sight, f, rfl, chain, placed, becomes⟩ := place_some resolved
          obtain ⟨due, played⟩ :=
            play_resource_some c.callback rfl resource resolved (own sight) (about sight)
          refine ⟨_, _, _, played, placed, ?_⟩
          rw [asked, entry, chain]
          exact .posted becomes due

theorem context_world (frame : FrameId) (d : Dispatcher (Desk World)) :
    let (found, frames) := d.scene.world.frames.resolve frame
    ∃ e, onStage (Stage.context frame) d =
        .ok (found.map fun live => (live, frames.ancestors live.id)) e ∧
      d.Becomes ⟨(d.scene.withFrames frames).world, d.stage.host.replies⟩ e := by
  rw [onStage_apply, Stage.context, Control.bind_apply, Stage.resolve_apply, resolve_world]
  rw [show d.scene.world.frames = d.stage.host.host.frames from rfl]
  cases d.stage.host.host.frames.resolve frame with
  | mk found frames =>
      cases found with
      | none => exact ⟨_, rfl, rfl, rfl, rfl, rfl⟩
      | some live => exact ⟨_, rfl, rfl, rfl, rfl, rfl⟩

theorem siteKey_world (urls : List Url) (d : Dispatcher (Desk World)) :
    ∃ key e, onStage (Stage.siteKeyFor urls) d = .ok key e ∧ d.Becomes d.stage.host e := by
  rw [onStage_apply, Stage.siteKeyFor_apply]
  exact ⟨_, _, rfl, logged_becomes _ _ d⟩

theorem classify_world {s : Scenario} {d : Dispatcher (Desk World)} (serves : d.scene.Serves s)
    (call : EngineCall) (url : Url) (own : call.snapshot = s.snapshot) (asks : call.url = url) :
    ∃ e, onStage (Stage.classify call) d = .ok (Scenario.verdict s.tables url) e ∧
      d.Becomes d.stage.host e := by
  rw [← s.classify_own, ← serves.tables, ← own, ← asks, onStage_apply, Stage.classify_apply]
  exact ⟨_, rfl, logged_becomes _ _ d⟩

/-- A popup is answered in line, after its observers have heard of it. -/
theorem popup_world {s : Scenario} (url : Url) (frame : FrameId) (d : Dispatcher (Desk World))
    (serves : d.scene.Serves s) : ∃ r x e,
      d.scene.play s.tables (.popup url frame) = (.answer (.result r), x) ∧
      x.observers = d.observers.entries ∧ popup s.snapshot url frame d = .ok r e ∧
      d.Becomes ⟨x.world, d.stage.host.replies⟩ e := by
  have context := context_world frame d
  cases resolved : d.scene.world.frames.resolve frame with
  | mk found u =>
      rw [resolved] at context
      obtain ⟨e, looked, shown⟩ := context
      rw [popup, Control.bind_of_ok _ looked]
      simp only [Scene.play, Event.evaluate, Scenario.evaluatePopup, resolved]
      cases found with
      | none => exact ⟨_, _, _, rfl, rfl, rfl, shown⟩
      | some live =>
          obtain ⟨key, f, keyed, same⟩ := siteKey_world (u.ancestors live.id) e
          have keying := shown.stays same
          have still : f.scene.Serves s := keying.scene_eq.symm ▸ serves.withFrames u
          obtain ⟨g, classified, same'⟩ := classify_world still
            (.popup s.snapshot url (u.ancestors live.id) key) url rfl rfl
          have there := keying.stays same'
          have still : g.scene.Serves s := there.scene_eq.symm ▸ serves.withFrames u
          simp only [Option.map_some]
          rw [Control.bind_of_ok _ keyed, Control.bind_of_ok _ classified]
          cases (Scenario.verdict s.tables url).subscription? with
          | none => exact ⟨_, _, _, rfl, rfl, rfl, there⟩
          | some subscription =>
              obtain ⟨h, announced, told⟩ := announce_world (.popupMatched
                { url, result := (Scenario.verdict s.tables url).result,
                  opener := (u.ancestors live.id).head?, frame := live, subscription }) g still
              rw [there.scene_eq, there.host] at told
              exact ⟨_, _, h, rfl, rfl, Control.bind_of_ok (fun _ => pure _) announced,
                there.trans told⟩

theorem place_rewrite {s : Scenario} (url : Url) (frame : FrameId) (callback : CallId)
    (d : Dispatcher (Desk World)) : ∃ a x f,
      d.scene.play s.tables (.rewrite url frame) = (.answer a, x) ∧
      place (.rewrite s.snapshot url frame callback) d = .ok () f ∧
      Placed (Scenario.engine s.ownTables) callback d a x f := by
  cases resolved : d.scene.world.frames.resolve frame with
  | mk found u =>
      cases found with
      | none =>
          obtain ⟨f, placed, becomes⟩ :=
            place_none (c := .rewrite s.snapshot url frame callback) resolved
          exact ⟨_, _, f, play_rewrite_none resolved, placed, .answered becomes⟩
      | some live =>
          obtain ⟨sight, f, -, -, placed, becomes⟩ :=
            place_some (c := .rewrite s.snapshot url frame callback) resolved
          obtain ⟨due, played⟩ := play_rewrite_some sight.ancestors callback resolved
          exact ⟨_, _, _, played, placed, .posted becomes due⟩

end Dispatcher

end FilterDispatch
