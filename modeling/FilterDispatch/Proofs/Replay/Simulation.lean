import FilterDispatch.Proofs.Replay.Agenda
import FilterDispatch.Proofs.Replay.Client

/-!
A replay follows its tasks.  In every state the tasks that are left, carried out one after the other
from where all that was sent leads to, make one and the same report; and every move leaves fewer
moves to make.
-/

namespace FilterDispatch.Replay

open Scenario (Event Table World counter keeper)

namespace Book

def complete (tables : List Table) (b : Book) (todo : List Task) : Book :=
  todo.foldl (carryOut tables) b

/-- The book has come to the report, and nothing is left to collect. -/
structure Closes (R : Report) (b : Book) : Prop where
  report : b.report = R
  collected : b.scene.world.notifications = []

end Book

/-- The service runs, and no call has been answered before it was made. -/
structure Serving (s : Scenario) (a : Standing) (m : Machine) : Prop where
  unclosed : m.closed = false
  snapshot : m.snapshot = s.snapshot
  stands : Service.Stands s a m.service
  fresh : ∀ p ∈ a.replies, p.1 < m.nextCall

/-- What is left to do once the service has stopped. -/
inductive Leaving (replies : List (CallId × Reply)) : List Task → Option CallId → Prop
  | told {call r} : replies.lookup call = some r → Leaving replies [.shutdown, .join] (some call)
  | join : Leaving replies [.join] none
  | done : Leaving replies [] none

/-- The machine is on its way to a report, and makes so many moves at most until it is there. -/
inductive Sim (s : Scenario) (R : Report) (n : Nat) (m : Machine) : Prop
  | between {a front x} : Serving s a m → m.sent = none → a.arriving = [] → Agenda m.todo →
      Ahead s (mode m.todo) front [] x a →
      Book.Closes R (Book.complete s.tables ⟨x, m.reply, m.records⟩ m.todo) →
      7 * m.todo.length + a.weight ≤ n → Sim s R n m
  | awaiting {a call task rest c r x} : Serving s a m → m.todo = task :: rest →
      m.sent = some call → call < m.nextCall → Agenda (task :: rest) →
      task.command? s.snapshot = some c → Awaits s call task rest r x a →
      Book.Closes R
        (Book.complete s.tables (Book.enter r ⟨x, m.reply, m.records⟩ task) rest) →
      7 * rest.length + 1 + a.weight ≤ n → Sim s R n m
  | stopped {x replies} : m.closed = false → Service.Stopped x replies m.service →
      Leaving replies m.todo m.sent → Book.Closes R ⟨x, m.reply, m.records⟩ →
      m.todo.length ≤ n → Sim s R n m

theorem Agenda.tail {s : Scenario} {task : Task} {rest : List Task} {c : Command}
    (h : Agenda (task :: rest)) (sends : task.command? s.snapshot = some c) : Agenda rest := by
  cases h with
  | observe own further calm => exact further
  | dispatch fits further => exact further
  | flush further calm => exact further
  | shutdown => exact .join
  | join => cases sends

theorem Agenda.leaving {todo : List Task} (h : Agenda todo) (leaving : mode todo = .leaving) :
    todo = [.join] := by
  cases h with
  | join => rfl
  | observe => cases leaving
  | dispatch => cases leaving
  | flush => cases leaving
  | shutdown => cases leaving

theorem Agenda.last {task : Task} (h : Agenda [task, .join]) : task = .shutdown := by
  cases h with
  | shutdown => rfl
  | observe own further calm => cases calm
  | flush further calm => cases calm

namespace Sim

variable {s : Scenario} {R : Report} {n : Nat} {m m' : Machine}

theorem fresh_lookup {replies : List (CallId × Reply)} {call : CallId}
    (fresh : ∀ p ∈ replies, p.1 < call) : replies.lookup call = none :=
  List.lookup_eq_none_iff.mpr fun p member =>
    bne_iff_ne.mpr (Nat.ne_of_gt (fresh p member))

theorem send {a : Standing} {front : List Sent} {x : Scene} (serving : Serving s a m)
    (sent : m.sent = none) (quiet : a.arriving = []) (agenda : Agenda m.todo)
    (ahead : Ahead s (mode m.todo) front [] x a)
    (closes : Book.Closes R (Book.complete s.tables ⟨x, m.reply, m.records⟩ m.todo))
    (bound : 7 * m.todo.length + a.weight ≤ n) (moved : m.client? = some m') :
    ∃ k < n, Sim s R k m' := by
  cases todo : m.todo with
  | nil => rw [todo] at agenda; cases agenda
  | cons task rest =>
      rw [Machine.client?_send serving.unclosed todo sent, serving.snapshot] at moved
      rw [todo] at agenda ahead closes bound
      cases sends : task.command? s.snapshot with
      | none => simp [sends, serving.stands.isRunning] at moved
      | some c =>
          simp only [sends, Option.some.injEq] at moved
          subst moved
          have awaits : Awaits s m.nextCall task rest (task.perform s.tables x).1
              (task.perform s.tables x).2
              { a with arriving := a.arriving ++ [⟨m.nextCall, c⟩] } :=
            .arriving sends (congrArg (· ++ [_]) quiet) (fresh_lookup serving.fresh)
              ⟨ahead.order, ahead.channel, ahead.waiters, ahead.leads⟩ rfl
          refine ⟨_, ?_, .awaiting ⟨serving.unclosed, rfl, serving.stands.send m.nextCall c,
            fun p old => Nat.lt_succ_of_lt (serving.fresh p old)⟩ todo rfl (Nat.lt_succ_self _)
            agenda sends awaits closes (Nat.le_refl _)⟩
          simp [Standing.weight, quiet] at bound ⊢
          omega

theorem receive {a : Standing} {call : CallId} {task : Task} {rest : List Task} {c : Command}
    {r : Reply} {x : Scene} (serving : Serving s a m) (todo : m.todo = task :: rest)
    (sent : m.sent = some call) (agenda : Agenda (task :: rest))
    (sends : task.command? s.snapshot = some c) (awaits : Awaits s call task rest r x a)
    (closes : Book.Closes R
        (Book.complete s.tables (Book.enter r ⟨x, m.reply, m.records⟩ task) rest))
    (bound : 7 * rest.length + 1 + a.weight ≤ n) (moved : m.client? = some m') :
    ∃ k < n, Sim s R k m' := by
  have status : m.service.callStatus call =
      (a.replies.lookup call).elim .outstanding .answered := by
    rw [Service.callStatus, Desk.reply?, serving.stands.replies, serving.stands.isRunning]
    cases a.replies.lookup call <;> rfl
  rw [Machine.client?_wait serving.unclosed todo sent, status] at moved
  have tail := agenda.tail sends
  cases awaits with
  | arriving _ _ fresh => rw [fresh] at moved; cases moved
  | entered _ _ _ fresh => rw [fresh] at moved; cases moved
  | loaded _ _ _ _ _ _ _ fresh => rw [fresh] at moved; cases moved
  | waiting _ _ _ _ _ _ _ fresh => rw [fresh] at moved; cases moved
  | @answered front quiet told ahead =>
      rw [told] at moved
      simp only [Option.elim_some, Option.some.injEq] at moved
      subst moved
      have less : 7 * rest.length + a.weight < n := by omega
      refine ⟨_, less, ?_⟩
      cases task with
      | observe o =>
          exact .between ⟨serving.unclosed, serving.snapshot, serving.stands, serving.fresh⟩ rfl
            quiet tail ahead closes (Nat.le_refl _)
      | dispatch e =>
          exact .between ⟨serving.unclosed, serving.snapshot, serving.stands, serving.fresh⟩ rfl
            quiet tail ahead closes (Nat.le_refl _)
      | shutdown =>
          exact .between ⟨serving.unclosed, serving.snapshot, serving.stands, serving.fresh⟩ rfl
            quiet tail ahead closes (Nat.le_refl _)
      | join => cases sends
      | flush index event =>
          have calm : mode rest = .calm := by cases agenda; assumption
          obtain ⟨order, channel, waiters, leads⟩ := ahead
          rw [calm] at order
          -- Only registrations can be on their way: what the keeper has is all that it will have.
          have world : m.service.host = x.world := by
            rw [← leads, order.calm_world, ← serving.stands.scene]
            rfl
          have heard : m.notifications = x.world.notifications := congrArg World.notifications world
          rw [Machine.finishTask, heard]
          exact .between ⟨serving.unclosed, serving.snapshot, serving.stands.clear, serving.fresh⟩
            rfl quiet tail ⟨calm ▸ order, channel, waiters, leads ▸ order.calm_cleared a.scene⟩
            closes (Nat.le_refl _)

theorem leave {x : Scene} {replies : List (CallId × Reply)} (unclosed : m.closed = false)
    (stopped : Service.Stopped x replies m.service) (leaving : Leaving replies m.todo m.sent)
    (closes : Book.Closes R ⟨x, m.reply, m.records⟩) (bound : m.todo.length ≤ n)
    (moved : m.client? = some m') : ∃ k < n, Sim s R k m' := by
  generalize todo : m.todo = tasks at leaving bound
  generalize sent : m.sent = made at leaving
  cases leaving with
  | @told call r told =>
      have status : m.service.callStatus call = .answered r := by
        rw [Service.callStatus, Desk.reply?, stopped.replies, told]
      rw [Machine.client?_wait unclosed todo sent, status] at moved
      simp only [Option.some.injEq] at moved
      subst moved
      exact ⟨1, bound, .stopped unclosed stopped .join closes (Nat.le_refl _)⟩
  | join =>
      rw [Machine.client?_send unclosed todo sent] at moved
      simp only [Task.command?, stopped.ended, Bool.false_eq_true, if_false,
        Option.some.injEq] at moved
      subst moved
      exact ⟨0, bound, .stopped unclosed stopped .done closes (Nat.le_refl _)⟩
  | done => simp [Machine.client?, unclosed, todo] at moved

theorem client (sim : Sim s R n m) (moved : m.client? = some m') : ∃ k < n, Sim s R k m' := by
  cases sim with
  | between serving sent quiet agenda ahead closes bound =>
      exact send serving sent quiet agenda ahead closes bound moved
  | awaiting serving todo sent made agenda sends awaits closes bound =>
      exact receive serving todo sent agenda sends awaits closes bound moved
  | stopped unclosed stopped leaving closes bound =>
      exact leave unclosed stopped leaving closes bound moved

theorem goes (sim : Sim s R n m) {u : Service World}
    (moved : Service.Goes (Scenario.engine s.ownTables) m.service u) :
    ∃ k < n, Sim s R k { m with service := u } := by
  cases sim with
  | @between a front x serving sent quiet agenda ahead closes bound =>
      obtain ⟨b, later, onward, there⟩ | ⟨leaving, stopped⟩ :=
        ahead.step quiet serving.stands moved
      · exact ⟨_, Nat.lt_of_lt_of_le (Nat.add_lt_add_left onward.lighter _) bound,
          .between ⟨serving.unclosed, serving.snapshot, onward.stands,
            onward.replies ▸ serving.fresh⟩ sent (onward.arriving.trans quiet) agenda there
            closes (Nat.le_refl _)⟩
      · have todo := agenda.leaving leaving
        rw [todo] at closes bound
        refine ⟨1, by simp at bound; omega, .stopped serving.unclosed stopped ?_ closes ?_⟩
        · simp only [todo, sent]
          exact .join
        · simp [todo]
  | @awaiting a call task rest c r x serving todo sent made agenda sends awaits closes bound =>
      obtain ⟨b, nearer, onward⟩ | ⟨leaving, stopped, told⟩ :=
        awaits.step agenda serving.stands moved
      · have fresh : ∀ p ∈ b.replies, p.1 < m.nextCall := fun p known =>
          (nearer.replies p known).elim (serving.fresh p) fun own => own ▸ made
        refine ⟨_, ?_, .awaiting ⟨serving.unclosed, serving.snapshot, nearer.stands, fresh⟩ todo
          sent made agenda sends onward closes (Nat.le_refl _)⟩
        have lighter := nearer.lighter
        omega
      · obtain rfl := (agenda.tail sends).leaving leaving
        obtain rfl := agenda.last
        refine ⟨2, by simp at bound; omega, .stopped serving.unclosed stopped ?_ closes ?_⟩
        · simp only [todo, sent]
          exact .told told
        · simp [todo]
  | stopped unclosed stopped => exact absurd moved stopped.halted.still

theorem mono {k : Nat} (sim : Sim s R k m) (le : k ≤ n) : Sim s R n m := by
  cases sim with
  | between serving sent quiet agenda ahead closes bound =>
      exact .between serving sent quiet agenda ahead closes (Nat.le_trans bound le)
  | awaiting serving todo sent made agenda sends awaits closes bound =>
      exact .awaiting serving todo sent made agenda sends awaits closes (Nat.le_trans bound le)
  | stopped unclosed stopped leaving closes bound =>
      exact .stopped unclosed stopped leaving closes (Nat.le_trans bound le)

theorem unclosed (sim : Sim s R n m) : m.closed = false := by
  cases sim with
  | between serving => exact serving.unclosed
  | awaiting serving => exact serving.unclosed
  | stopped unclosed => exact unclosed

/-- The only outcome is the report. -/
theorem outcome (sim : Sim s R n m) : m.outcome? = none ∨ m.outcome? = some (some R) := by
  cases sim with
  | between serving sent quiet agenda ahead closes bound =>
      cases todo : m.todo with
      | nil => rw [todo] at agenda; cases agenda
      | cons task rest => simp [Machine.outcome?, serving.unclosed, todo]
  | awaiting serving todo => simp [Machine.outcome?, serving.unclosed, todo]
  | @stopped x replies unclosed stopped leaving closes bound =>
      generalize todo : m.todo = tasks at leaving
      generalize m.sent = made at leaving
      cases leaving with
      | told => simp [Machine.outcome?, unclosed, todo]
      | join => simp [Machine.outcome?, unclosed, todo]
      | done =>
          have world : m.service.host = x.world := congrArg Scene.world stopped.scene
          right
          rw [← closes.report, Machine.outcome?, unclosed, todo, world]
          rfl

theorem goes_on (sim : Sim s R n m) (unfinished : m.outcome? = none) :
    m.progress? (Machine.engine s) ≠ none := by
  intro stuck
  obtain ⟨silent, still⟩ := Machine.progress?_eq_none.mp stuck
  cases sim with
  | @between a front x serving sent quiet agenda ahead closes bound =>
      cases todo : m.todo with
      | nil => rw [todo] at agenda; cases agenda
      | cons task rest =>
          rw [Machine.client?_send serving.unclosed todo sent] at silent
          cases sends : task.command? m.snapshot with
          | some c => simp [sends] at silent
          | none =>
              have joins : task = .join := by cases task <;> simp_all [Task.command?]
              rw [todo, joins] at ahead
              have more : a.channel ≠ [] := by
                simpa [ahead.channel] using ahead.order.leaving_ne_nil
              exact serving.stands.goes_on (.inl more) still
  | @awaiting a call task rest c r x serving todo sent made agenda sends awaits closes bound =>
      have idle : ¬ (a.channel ≠ [] ∨ a.arriving ≠ [] ∨ a.load ≠ none) := fun more =>
        serving.stands.goes_on more still
      cases awaits with
      | arriving _ alone => exact idle (.inr (.inl (by simp [alone])))
      | entered _ _ _ _ ahead => exact idle (.inl (by simp [ahead.channel]))
      | loaded load => exact idle (.inr (.inr (by simp [load])))
      | waiting load => exact idle (.inr (.inr (by simp [load])))
      | answered quiet told ahead =>
          have status : m.service.callStatus call = .answered r := by
            rw [Service.callStatus, Desk.reply?, serving.stands.replies, told]
          rw [Machine.client?_wait serving.unclosed todo sent, status] at silent
          cases silent
  | @stopped x replies unclosed stopped leaving closes bound =>
      generalize todo : m.todo = tasks at leaving
      generalize sent : m.sent = made at leaving
      cases leaving with
      | @told call r told =>
          have status : m.service.callStatus call = .answered r := by
            rw [Service.callStatus, Desk.reply?, stopped.replies, told]
          rw [Machine.client?_wait unclosed todo sent, status] at silent
          cases silent
      | join =>
          rw [Machine.client?_send unclosed todo sent] at silent
          simp [Task.command?, stopped.ended] at silent
      | done => simp [Machine.outcome?, unclosed, todo] at unfinished

theorem stays (sim : Sim s R n m) : m.service.hangUp? = none := by
  cases sim with
  | between serving => exact serving.stands.stays
  | awaiting serving => exact serving.stands.stays
  | stopped unclosed stopped => exact stopped.halted.stays

theorem heads : Machine.Heads (Machine.engine s) (some R) (Sim s R) where
  client := client
  goes sim moved := sim.goes moved
  ends := outcome
  goes_on := goes_on
  stays := stays
  mono := mono

theorem progress_step (sim : Sim s R n m) (moved : m.progress? (Machine.engine s) = some m') :
    ∃ move, m.step? (Machine.engine s) move = some m' :=
  heads.progress_step sim moved

/-- A run keeps to the report and makes no more moves than were left. -/
theorem run {moves : List Machine.Move} (sim : Sim s R n m)
    (ran : Machine.run? (Machine.engine s) moves m = some m') :
    ∃ k, Sim s R k m' ∧ moves.length + k ≤ n :=
  heads.run sim ran

theorem runFor (sim : Sim s R n m) : m.runFor (Machine.engine s) n = some (some R) :=
  heads.runFor sim

end Sim

end FilterDispatch.Replay
