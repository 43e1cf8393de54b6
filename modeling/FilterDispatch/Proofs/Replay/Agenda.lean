import FilterDispatch.Proofs.Replay.Backlog
import FilterDispatch.Replay.Basic

/-!
What the client of a replay has still to do, and how it waits.  A task that is sent is answered with
what it comes to after all that was sent before it, and nothing that happens meanwhile changes this.
-/

namespace FilterDispatch.Replay

open Scenario (Event Table World counter keeper)

/-- Where a replay has got to once all that was sent is done. -/
structure Book where
  scene : Scene
  reply : Reply := .done
  /-- The newest record first. -/
  records : List Record := []

def Task.perform (tables : List Table) : Task → Scene → Reply × Scene
  | .observe o, x => (.done, x.add o)
  | .dispatch e, x => x.play tables e
  | .flush .., x | .shutdown, x | .join, x => (.done, x)

namespace Book

def enter (r : Reply) (b : Book) : Task → Book
  | .dispatch _ => { b with reply := r }
  | .flush index event =>
    let record : Record := ⟨index, event, b.reply, b.scene.world.notifications⟩
    { b with scene := b.scene.cleared, records := record :: b.records }
  | .observe _ | .shutdown | .join => b

def carryOut (tables : List Table) (b : Book) (task : Task) : Book :=
  let (r, scene) := task.perform tables b.scene
  { b with scene }.enter r task

def report (b : Book) : Report :=
  ⟨b.records.reverse, b.scene.world.stats⟩

end Book

/-- What may be on its way while the first of the tasks is waited for. -/
def mode : List Task → Mode
  | .flush .. :: _ => .checking
  | .join :: _ => .leaving
  | _ => .calm

/-- The tasks that a client can have left. -/
inductive Agenda : List Task → Prop
  | observe {o rest} : o = keeper ∨ o = counter → Agenda rest → mode rest = .calm →
      Agenda (.observe o :: rest)
  | dispatch {e index event rest} : e.Fits → Agenda (.flush index event :: rest) →
      Agenda (.dispatch e :: .flush index event :: rest)
  | flush {index event rest} : Agenda rest → mode rest = .calm → Agenda (.flush index event :: rest)
  | shutdown : Agenda [.shutdown, .join]
  | join : Agenda [.join]

namespace Agenda

variable {s : Scenario} {task : Task} {rest : List Task} {c : Command}

theorem stays (h : Agenda (task :: rest)) (sends : task.command? s.snapshot = some c) :
    mode (task :: rest) ≠ .leaving ∧ (c.wantsReply = true → mode rest ≠ .leaving) := by
  cases h with
  | observe own further calm => exact ⟨nofun, fun _ => calm ▸ nofun⟩
  | dispatch fits further => exact ⟨nofun, fun _ => nofun⟩
  | flush further calm => exact ⟨nofun, fun _ => calm ▸ nofun⟩
  | shutdown =>
      cases sends
      exact ⟨nofun, nofun⟩
  | join => cases sends

theorem quiet (h : Agenda (task :: rest)) (sends : task.command? s.snapshot = some c)
    (unasked : c.wantsReply = false) : mode (task :: rest) = .calm ∧
      (∀ call, Front s (mode rest) none [⟨call, c⟩]) ∧
      ∀ x, task.perform s.tables x = (.done, after s.tables c x) := by
  cases h with
  | observe own further calm =>
      cases sends
      exact ⟨rfl, fun _ => calm ▸ .observe own (.idle (by decide)), fun _ => rfl⟩
  | @dispatch e index event rest fits further =>
      cases e with
      | document url frame =>
          cases sends
          refine ⟨rfl, fun _ => .document, fun x => ?_⟩
          have replied : (x.play s.tables (.document url frame)).1 = .done :=
            congrArg Prod.fst (s.play_document url frame x).2
          exact Prod.ext replied rfl
      | request url contentType frame => cases sends; cases unasked
      | socket url frame => cases sends; cases unasked
      | response url contentType frame headers => cases sends; cases unasked
      | popup url frame => cases sends; cases unasked
      | rewrite url frame => cases sends; cases unasked
  | flush further calm =>
      cases sends
      cases unasked
  | shutdown =>
      cases sends
      exact ⟨rfl, fun _ => .shutdown, fun _ => rfl⟩
  | join => cases sends

end Agenda

/-- How far the command of the first task is; it will be answered so, and then the scene is this
one. -/
inductive Awaits (s : Scenario) (call : CallId) (task : Task) (rest : List Task) (r : Reply)
    (x : Scene) (a : Standing) : Prop
  | arriving {c front y} : task.command? s.snapshot = some c → a.arriving = [⟨call, c⟩] →
      a.replies.lookup call = none → Ahead s (mode (task :: rest)) front [] y a →
      task.perform s.tables y = (r, x) → Awaits s call task rest r x a
  | entered {c front y} : task.command? s.snapshot = some c → c.wantsReply = true →
      a.arriving = [] → a.replies.lookup call = none →
      Ahead s (mode (task :: rest)) front [⟨call, c⟩] y a → task.perform s.tables y = (r, x) →
      Awaits s call task rest r x a
  | loaded {l : Load} {answer} : a.load = some l →
      l.reply? (Scenario.engine s.ownTables) = some (call, answer) → r = .answer answer →
      l.settle (Scenario.engine s.ownTables) a.scene = x → a.channel = [] → a.arriving = [] →
      a.waiters = [] → a.replies.lookup call = none → mode rest ≠ .leaving →
      Awaits s call task rest r x a
  | waiting {l : Load} : a.load = some l → l.reply? (Scenario.engine s.ownTables) = none →
      r = .done → l.settle (Scenario.engine s.ownTables) a.scene = x → a.channel = [] →
      a.arriving = [] → a.waiters = [call] → a.replies.lookup call = none → mode rest ≠ .leaving →
      Awaits s call task rest r x a
  | answered {front} : a.arriving = [] → a.replies.lookup call = some r →
      Ahead s (mode rest) front [] x a → Awaits s call task rest r x a

/-- One move further, with no replies but to the call. -/
structure Nearer (s : Scenario) (call : CallId) (a b : Standing) (u : Service World) : Prop where
  stands : Service.Stands s b u
  lighter : b.weight < a.weight
  replies : ∀ p ∈ b.replies, p ∈ a.replies ∨ p.1 = call

theorem Onward.nearer {s : Scenario} {a b : Standing} {u : Service World} (onward : Onward s a b u)
    (call : CallId) : Nearer s call a b u :=
  ⟨onward.stands, onward.lighter, fun _ known => .inl (onward.replies ▸ known)⟩

namespace Awaits

variable {s : Scenario} {call : CallId} {task : Task} {rest : List Task} {r : Reply} {x : Scene}
  {a : Standing} {t u : Service World}

theorem enqueue (awaits : Awaits s call task rest r x a) (agenda : Agenda (task :: rest))
    (stands : Service.Stands s a t) (moved : t.enqueue? = some u) :
    ∃ b, Nearer s call a b u ∧ Awaits s call task rest r x b := by
  obtain ⟨y, more, arriving, entered⟩ := stands.enqueue moved
  cases awaits with
  | @arriving c front z sends alone fresh ahead performed =>
      rw [alone] at arriving
      obtain ⟨rfl, rfl⟩ := List.cons.inj arriving
      obtain ⟨order, channel, waiters, leads⟩ := ahead
      rw [List.append_nil] at channel
      cases asks : c.wantsReply with
      | true =>
          simp only [asks, if_true] at entered
          refine ⟨_, ⟨entered, ?_, fun p old => .inl old⟩,
            .entered sends asks rfl fresh ⟨order, congrArg (· ++ [_]) channel, waiters, leads⟩
              performed⟩
          simp [Standing.weight, alone]
          omega
      | false =>
          simp only [asks, Bool.false_eq_true, if_false] at entered
          obtain ⟨calm, last, performs⟩ := agenda.quiet sends asks
          rw [performs] at performed
          obtain ⟨rfl, rfl⟩ := Prod.mk.inj performed
          rw [calm] at order
          refine ⟨_, ⟨entered, ?_, ?_⟩, .answered rfl (by simp)
            ⟨order.append (last call), ?_, waiters, ?_⟩⟩
          · simp [Standing.weight, alone]
            omega
          · exact fun p known => (List.mem_cons.mp known).symm.imp id (congrArg Prod.fst)
          · rw [List.append_nil, channel]
          · rw [← leads]
            exact List.foldl_concat ..
  | entered _ _ none => rw [none] at arriving; cases arriving
  | loaded _ _ _ _ _ none => rw [none] at arriving; cases arriving
  | waiting _ _ _ _ _ none => rw [none] at arriving; cases arriving
  | answered none => rw [none] at arriving; cases arriving

theorem take_own {c : Command} {y : Scene} (agenda : Agenda (task :: rest))
    (sends : task.command? s.snapshot = some c) (asks : c.wantsReply = true)
    (quiet : a.arriving = []) (fresh : a.replies.lookup call = none)
    (ahead : Ahead s (mode (task :: rest)) [] [⟨call, c⟩] y a)
    (performed : task.perform s.tables y = (r, x)) (stands : Service.Stands s a t)
    (moved : t.takeCommand? = some u) :
    ∃ b, Nearer s call a b u ∧ Awaits s call task rest r x b := by
  obtain ⟨order, channel, waiters, leads⟩ := ahead
  obtain ⟨_, _, first, rfl⟩ := stands.takeCommand moved
  rw [channel] at first
  obtain ⟨rfl, rfl⟩ := List.cons.inj first
  have shorter := stands.rest []
  have there := (agenda.stays sends).2 asks
  have lighter : 4 = 4 * a.channel.length := by simp [channel]
  cases agenda with
  | observe own further calm => cases sends; cases asks
  | @dispatch e index event rest fits further =>
      cases sends
      have idle := order.calm_load
      rw [idle] at leads
      obtain ⟨answer, z, played, answering⟩ :=
        shorter.handle_event idle fits asks call
      have same := (congrArg (Task.perform s.tables (.dispatch e)) leads).trans performed
      obtain ⟨rfl, rfl⟩ := Prod.mk.inj (played.symm.trans same)
      cases answering with
      | done after =>
          refine ⟨_, ⟨after.answer_nobody waiters, ?_, ?_⟩, .answered quiet (by simp)
            (.of_idle there idle rfl waiters rfl)⟩
          · simp only [Standing.weight, List.length_nil]
            omega
          · exact fun p known => (List.mem_cons.mp known).symm.imp id (congrArg Prod.fst)
      | posted l due leads after =>
          refine ⟨_, ⟨after.answer_nobody waiters, ?_, fun p old => .inl old⟩, .loaded rfl due rfl
            leads rfl quiet waiters fresh there⟩
          simp only [Standing.weight, List.length_nil]
          omega
  | @flush index event rest further calm =>
      cases sends
      obtain ⟨rfl, rfl⟩ := Prod.mk.inj performed
      have waits := shorter.handle_flush call
      cases load : a.load with
      | none =>
          have after := waits.answer_idle load
          simp only [waiters] at after
          rw [load] at leads
          subst leads
          refine ⟨_, ⟨after, ?_, ?_⟩, .answered quiet (by simp) (.of_idle there load rfl rfl rfl)⟩
          · simp only [Standing.weight, List.length_nil]
            omega
          · exact fun p known => (List.mem_cons.mp known).symm.imp id (congrArg Prod.fst)
      | some l =>
          have after := waits.answer_busy load
          rw [load] at order leads
          cases order with
          | loaded silent =>
              refine ⟨_, ⟨after, ?_, fun p old => .inl old⟩, .waiting load silent rfl leads rfl
                quiet (congrArg (· ++ [call]) waiters) fresh there⟩
              simp only [Standing.weight, List.length_nil]
              omega
  | shutdown => cases sends; cases asks
  | join => cases sends

theorem takeCommand (awaits : Awaits s call task rest r x a) (agenda : Agenda (task :: rest))
    (stands : Service.Stands s a t) (moved : t.takeCommand? = some u) :
    (∃ b, Nearer s call a b u ∧ Awaits s call task rest r x b) ∨
      mode rest = .leaving ∧ Service.Stopped x a.replies u ∧ a.replies.lookup call = some r := by
  obtain ⟨y, more, first, -⟩ := stands.takeCommand moved
  cases awaits with
  | @arriving c front z sends alone fresh ahead performed =>
      cases front with
      | nil => rw [ahead.channel] at first; cases first
      | cons d front =>
          obtain ⟨b, onward, there⟩ | ⟨leaving, -⟩ := ahead.take stands moved
          · exact .inl ⟨b, onward.nearer call, .arriving sends (onward.arriving.trans alone)
              (onward.replies ▸ fresh) there performed⟩
          · exact absurd leaving (agenda.stays sends).1
  | @entered c front z sends asks quiet fresh ahead performed =>
      cases front with
      | nil => exact .inl (take_own agenda sends asks quiet fresh ahead performed stands moved)
      | cons d front =>
          obtain ⟨b, onward, there⟩ | ⟨leaving, -⟩ := ahead.take stands moved
          · exact .inl ⟨b, onward.nearer call, .entered sends asks (onward.arriving.trans quiet)
              (onward.replies ▸ fresh) there performed⟩
          · exact absurd leaving (agenda.stays sends).1
  | loaded _ _ _ _ empty => rw [empty] at first; cases first
  | waiting _ _ _ _ empty => rw [empty] at first; cases first
  | @answered front quiet told ahead =>
      cases front with
      | nil => rw [ahead.channel] at first; cases first
      | cons d front =>
          obtain ⟨b, onward, there⟩ | ⟨leaving, stopped⟩ := ahead.take stands moved
          · exact .inl ⟨b, onward.nearer call,
              .answered (onward.arriving.trans quiet) (onward.replies ▸ told) there⟩
          · exact .inr ⟨leaving, stopped, told⟩

theorem takeOutcome (awaits : Awaits s call task rest r x a) (stands : Service.Stands s a t)
    (moved : t.takeOutcome? = some u) :
    ∃ b, Nearer s call a b u ∧ Awaits s call task rest r x b := by
  cases awaits with
  | @arriving c front z sends alone fresh ahead performed =>
      obtain ⟨b, onward, there⟩ := ahead.deliver stands moved
      exact ⟨b, onward.nearer call, .arriving sends (onward.arriving.trans alone)
        (onward.replies ▸ fresh) there performed⟩
  | @entered c front z sends asks quiet fresh ahead performed =>
      obtain ⟨b, onward, there⟩ := ahead.deliver stands moved
      exact ⟨b, onward.nearer call, .entered sends asks (onward.arriving.trans quiet)
        (onward.replies ▸ fresh) there performed⟩
  | @loaded l answer load due same leads empty quiet waiters fresh stays =>
      obtain ⟨k, v, there, working, delivered, rfl⟩ := stands.takeOutcome moved
      cases load.symm.trans there
      rw [due] at delivered
      subst same
      refine ⟨_, ⟨delivered.answer_nobody waiters, ?_, ?_⟩,
        .answered quiet (by simp [Dispatcher.replied]) (.of_idle stays rfl empty waiters leads)⟩
      · simp only [Standing.weight]
        omega
      · exact fun p known => (List.mem_cons.mp known).symm.imp id (congrArg Prod.fst)
  | @waiting l load silent same leads empty quiet waiters fresh stays =>
      obtain ⟨k, v, there, working, delivered, rfl⟩ := stands.takeOutcome moved
      cases load.symm.trans there
      have after := delivered.answer_idle rfl
      simp only [waiters, silent] at after
      subst same
      refine ⟨_, ⟨after, ?_, ?_⟩,
        .answered quiet (by simp) (.of_idle stays rfl empty rfl leads)⟩
      · simp only [Standing.weight]
        omega
      · exact fun p known => (List.mem_cons.mp known).symm.imp id (congrArg Prod.fst)
  | @answered front quiet told ahead =>
      obtain ⟨b, onward, there⟩ := ahead.deliver stands moved
      exact ⟨b, onward.nearer call,
        .answered (onward.arriving.trans quiet) (onward.replies ▸ told) there⟩

theorem work (awaits : Awaits s call task rest r x a) (n : Nat) :
    Awaits s call task rest r x { a with work := n } := by
  cases awaits with
  | arriving sends alone fresh ahead performed =>
      exact .arriving sends alone fresh (ahead.work n) performed
  | entered sends asks quiet fresh ahead performed =>
      exact .entered sends asks quiet fresh (ahead.work n) performed
  | loaded load due same leads empty quiet waiters fresh stays =>
      exact .loaded load due same leads empty quiet waiters fresh stays
  | waiting load silent same leads empty quiet waiters fresh stays =>
      exact .waiting load silent same leads empty quiet waiters fresh stays
  | answered quiet told ahead => exact .answered quiet told (ahead.work n)

theorem step (awaits : Awaits s call task rest r x a) (agenda : Agenda (task :: rest))
    (stands : Service.Stands s a t)
    (goes : Service.Goes (Scenario.engine s.ownTables) t u) :
    (∃ b, Nearer s call a b u ∧ Awaits s call task rest r x b) ∨
      mode rest = .leaving ∧ Service.Stopped x a.replies u ∧ a.replies.lookup call = some r := by
  have worked {n : Nat} (less : n < a.work) (there : Service.Stands s { a with work := n } u) :
      ∃ b, Nearer s call a b u ∧ Awaits s call task rest r x b :=
    ⟨_, ⟨there, Nat.add_lt_add_left less _, fun _ old => .inl old⟩, awaits.work n⟩
  cases goes with
  | enqueue moved => exact .inl (awaits.enqueue agenda stands moved)
  | takeCommand moved => exact awaits.takeCommand agenda stands moved
  | takeOutcome moved => exact .inl (awaits.takeOutcome stands moved)
  | start moved =>
      obtain ⟨n, less, there⟩ := stands.start moved
      exact .inl (worked less there)
  | finish moved =>
      obtain ⟨n, less, there⟩ := stands.finish moved
      exact .inl (worked less there)

end Awaits

end FilterDispatch.Replay
