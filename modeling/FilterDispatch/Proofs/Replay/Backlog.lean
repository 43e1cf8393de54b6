import FilterDispatch.Proofs.Replay.Standing

/-!
What a service has still to do for commands that nobody waits for.  The client of a replay waits for
all that matters, so before the command that it waits for there are only registrations and, at the
end of these, a document or the order to stop; or the job of a document is on its way and nothing
else.  Where all of this leads does not depend on when it is done.
-/

namespace FilterDispatch.Replay

open Scenario (Table World counter keeper)

/-- What a command that nobody waits for comes to. -/
def after (tables : List Table) : Command → Scene → Scene
  | .addObserver o, x => x.add o
  | .document _ url frame, x => (x.play tables (.document url frame)).2
  | _, x => x

/-- What may still be on its way. -/
inductive Mode
  | calm | checking | leaving
  deriving DecidableEq

/-- A job and commands that nobody waits for. -/
inductive Front (s : Scenario) : Mode → Option Load → List Sent → Prop
  | idle {mode} : mode ≠ .leaving → Front s mode none []
  | loaded {l : Load} : l.reply? (Scenario.engine s.ownTables) = none →
      Front s .checking (some l) []
  | document {call url frame} :
      Front s .checking none [⟨call, .document s.snapshot url frame⟩]
  | shutdown {call} : Front s .leaving none [⟨call, .shutdown⟩]
  | observe {mode call o front} : o = keeper ∨ o = counter → Front s mode none front →
      Front s mode none (⟨call, .addObserver o⟩ :: front)

namespace Front

variable {s : Scenario} {mode : Mode} {load : Option Load} {front : List Sent}

def drained (s : Scenario) (load : Option Load) (front : List Sent) (x : Scene) : Scene :=
  front.foldl (fun x c => after s.tables c.command x)
    (match load with
      | none => x
      | some l => l.settle (Scenario.engine s.ownTables) x)

theorem calm_load (h : Front s .calm load front) : load = none := by
  cases h <;> rfl

theorem leaving_ne_nil (h : Front s .leaving load front) : front ≠ [] := by
  cases h with
  | idle stays => exact absurd rfl stays
  | shutdown => exact List.cons_ne_nil _ _
  | observe own further => exact List.cons_ne_nil _ _

theorem append (h : Front s .calm load front) {c : Sent} (last : Front s mode none [c]) :
    Front s mode load (front ++ [c]) := by
  cases h.calm_load
  induction front with
  | nil => exact last
  | cons d rest ih =>
      cases h with
      | observe own further => exact .observe own (ih further)

theorem calm_world (h : Front s .calm load front) (x : Scene) :
    (drained s load front x).world = x.world := by
  cases h.calm_load
  induction front generalizing x with
  | nil => rfl
  | cons c rest ih =>
      cases h with
      | @observe mode call o front own further => exact ih (x.add o) further

theorem calm_cleared (h : Front s .calm load front) (x : Scene) :
    drained s load front x.cleared = (drained s load front x).cleared := by
  cases h.calm_load
  induction front generalizing x with
  | nil => rfl
  | cons c rest ih =>
      cases h with
      | @observe mode call o front own further => exact ih (x.add o) further

end Front

/-- The service has a front to deal with before it comes to the commands behind it, and then the
scene is this one. -/
structure Ahead (s : Scenario) (mode : Mode) (front behind : List Sent) (x : Scene)
    (a : Standing) : Prop where
  order : Front s mode a.load front
  channel : a.channel = front ++ behind
  waiters : a.waiters = []
  leads : Front.drained s a.load front a.scene = x

/-- One move further, with no news for the client. -/
structure Onward (s : Scenario) (a b : Standing) (u : Service World) : Prop where
  stands : Service.Stands s b u
  arriving : b.arriving = a.arriving
  replies : b.replies = a.replies
  lighter : b.weight < a.weight

namespace Ahead

variable {s : Scenario} {mode : Mode} {c : Sent} {front behind : List Sent} {x : Scene}
  {a : Standing} {t u : Service World}

theorem of_idle (stays : mode ≠ .leaving) (idle : a.load = none) (empty : a.channel = [])
    (waiters : a.waiters = []) (there : a.scene = x) : Ahead s mode [] [] x a :=
  ⟨idle.symm ▸ .idle stays, empty, waiters, by rw [idle]; exact there⟩

theorem take (ahead : Ahead s mode (c :: front) behind x a) (stands : Service.Stands s a t)
    (moved : t.takeCommand? = some u) :
    (∃ b, Onward s a b u ∧ Ahead s mode front behind x b) ∨
      mode = .leaving ∧ Service.Stopped x a.replies u := by
  obtain ⟨order, channel, waiters, leads⟩ := ahead
  obtain ⟨y, rest, first, rfl⟩ := stands.takeCommand moved
  rw [channel, List.cons_append] at first
  obtain ⟨rfl, rfl⟩ := List.cons.inj first
  have shorter := stands.rest (front ++ behind)
  have less : 4 * (front ++ behind).length + 4 = 4 * a.channel.length := by
    simp [channel]
    omega
  generalize idle : a.load = load at order leads
  cases order with
  | @observe _ call o _ own further =>
      refine .inl ⟨_, ⟨(shorter.handle_observe call own).answer_nobody waiters, rfl, rfl, ?_⟩,
        ⟨idle ▸ further, rfl, waiters, ?_⟩⟩
      · simp only [Standing.weight]
        omega
      · rw [← leads, idle]
        rfl
  | @document call url frame =>
      obtain ⟨silent, played⟩ := Scenario.play_document s url frame a.scene
      refine .inl ⟨_, ⟨(shorter.handle_document idle call url frame).answer_nobody waiters, rfl,
        rfl, ?_⟩, ⟨.loaded silent, rfl, waiters, ?_⟩⟩
      · simp only [Standing.weight]
        omega
      · rw [← leads]
        exact (congrArg Prod.snd played).symm
  | @shutdown call =>
      have stopped := shorter.handle_shutdown idle call
      rw [← show a.scene = x from leads]
      exact .inr ⟨rfl, stopped⟩

theorem deliver (ahead : Ahead s mode front behind x a) (stands : Service.Stands s a t)
    (moved : t.takeOutcome? = some u) :
    ∃ b, Onward s a b u ∧ Ahead s mode front behind x b := by
  obtain ⟨order, channel, waiters, leads⟩ := ahead
  obtain ⟨l, v, there, working, delivered, rfl⟩ := stands.takeOutcome moved
  rw [there] at order leads
  cases order with
  | loaded silent =>
      rw [silent] at delivered
      refine ⟨_, ⟨delivered.answer_nobody waiters, rfl, rfl, ?_⟩,
        ⟨.idle (by decide), channel, waiters, leads⟩⟩
      simp only [Standing.weight]
      omega

theorem work (ahead : Ahead s mode front behind x a) (n : Nat) :
    Ahead s mode front behind x { a with work := n } :=
  ⟨ahead.order, ahead.channel, ahead.waiters, ahead.leads⟩

/-- Whatever moves while the client is silent, it leads to the same. -/
theorem step (ahead : Ahead s mode front [] x a) (quiet : a.arriving = [])
    (stands : Service.Stands s a t) (goes : Service.Goes (Scenario.engine s.ownTables) t u) :
    (∃ b later, Onward s a b u ∧ Ahead s mode later [] x b) ∨
      mode = .leaving ∧ Service.Stopped x a.replies u := by
  have worked {n : Nat} (less : n < a.work) (there : Service.Stands s { a with work := n } u) :
      ∃ b later, Onward s a b u ∧ Ahead s mode later [] x b :=
    ⟨_, front, ⟨there, rfl, rfl, Nat.add_lt_add_left less _⟩, ahead.work n⟩
  cases goes with
  | enqueue moved =>
      obtain ⟨y, rest, arriving, -⟩ := stands.enqueue moved
      rw [quiet] at arriving
      cases arriving
  | takeCommand moved =>
      cases front with
      | nil =>
          obtain ⟨y, rest, channel, -⟩ := stands.takeCommand moved
          rw [ahead.channel] at channel
          cases channel
      | cons c later =>
          obtain ⟨b, onward, there⟩ | stopped := ahead.take stands moved
          · exact .inl ⟨b, later, onward, there⟩
          · exact .inr stopped
  | takeOutcome moved =>
      obtain ⟨b, onward, there⟩ := ahead.deliver stands moved
      exact .inl ⟨b, front, onward, there⟩
  | start moved =>
      obtain ⟨n, less, there⟩ := stands.start moved
      exact .inl (worked less there)
  | finish moved =>
      obtain ⟨n, less, there⟩ := stands.finish moved
      exact .inl (worked less there)

end Ahead

end FilterDispatch.Replay
