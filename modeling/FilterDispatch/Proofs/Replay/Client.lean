import FilterDispatch.Proofs.Replay.Standing
import FilterDispatch.Replay.Basic

/-!
The client of a replay, and families of states that a replay passes through.  Such a family is left
with one outcome only, and its bound on the moves to make falls with every move; whoever moves, the
replay then comes to that outcome, and so it does by the fixed rule.
-/

namespace FilterDispatch.Replay.Machine

open Scenario (World)

variable {e : Engine} {m m' : Machine} {task : Task} {rest other : List Task} {call : CallId}

theorem client?_send (unclosed : m.closed = false) (todo : m.todo = task :: rest)
    (sent : m.sent = none) : m.client? =
      match task.command? m.snapshot with
      | some c =>
        some { m with
          service := m.service.send m.nextCall c, sent := some m.nextCall,
          nextCall := m.nextCall + 1 }
      | none => if m.service.isRunning then none else some (m.finishTask .done rest task) := by
  simp only [client?, unclosed, todo, sent]
  rfl

theorem client?_wait (unclosed : m.closed = false) (todo : m.todo = task :: rest)
    (sent : m.sent = some call) : m.client? =
      match m.service.callStatus call with
      | .outstanding => none
      | .answered r => some (m.finishTask r rest task)
      | .closed => some { m with closed := true } := by
  simp only [client?, unclosed, todo, sent]
  rfl

/-- All that a move of the client can do. -/
inductive Client (m : Machine) : Machine → Prop
  | sends {task : Task} {rest : List Task} {c : Command} : m.todo = task :: rest → m.sent = none →
      task.command? m.snapshot = some c →
      Client m { m with
        service := m.service.send m.nextCall c, sent := some m.nextCall, nextCall := m.nextCall + 1 }
  | finishes {task : Task} {rest : List Task} (r : Reply) : m.todo = task :: rest →
      (m.sent = none → task.command? m.snapshot = none) → Client m (m.finishTask r rest task)
  | closes : Client m { m with closed := true }

theorem client?_cases (moved : m.client? = some m') : Client m m' := by
  cases closed : m.closed with
  | true => simp [client?, closed] at moved
  | false =>
      cases todo : m.todo with
      | nil => simp [client?, closed, todo] at moved
      | cons task rest =>
          cases sent : m.sent with
          | none =>
              rw [client?_send closed todo sent] at moved
              cases sends : task.command? m.snapshot with
              | some c =>
                  simp only [sends, Option.some.injEq] at moved
                  exact moved ▸ .sends todo sent sends
              | none =>
                  simp only [sends, Option.ite_none_left_eq_some, Option.some.injEq] at moved
                  exact moved.2 ▸ .finishes .done todo fun _ => sends
          | some call =>
              rw [client?_wait closed todo sent] at moved
              cases status : m.service.callStatus call with
              | outstanding => simp [status] at moved
              | answered r =>
                  simp only [status, Option.some.injEq] at moved
                  exact moved ▸ .finishes r todo (by simp [sent])
              | closed =>
                  simp only [status, Option.some.injEq] at moved
                  exact moved ▸ .closes

def withTodo (todo : List Task) (m : Machine) : Machine :=
  { m with todo }

theorem finishTask_todo (r : Reply) (rest : List Task) (m : Machine) (task : Task) :
    (m.finishTask r rest task).todo = rest ∧ (m.finishTask r rest task).sent = none := by
  cases task <;> exact ⟨rfl, rfl⟩

theorem finishTask_withTodo (r : Reply) (todo rest other : List Task) (m : Machine) (task : Task) :
    (m.withTodo todo).finishTask r other task = (m.finishTask r rest task).withTodo other := by
  cases task <;> rfl

/-- What is behind the first task makes no difference to the client. -/
theorem client?_swap (todo : m.todo = task :: rest) (other : List Task)
    (moved : m.client? = some m') :
    (m'.todo = task :: rest ∧
      (m.withTodo (task :: other)).client? = some (m'.withTodo (task :: other))) ∨
    (m'.todo = rest ∧ m'.sent = none ∧
      (m.withTodo (task :: other)).client? = some (m'.withTodo other)) := by
  have finished (r : Reply) (done : m.finishTask r rest task = m')
      (there : (m.withTodo (task :: other)).client? =
        some ((m.withTodo (task :: other)).finishTask r other task)) :
      m'.todo = rest ∧ m'.sent = none ∧
        (m.withTodo (task :: other)).client? = some (m'.withTodo other) := by
    subst done
    obtain ⟨left, idle⟩ := finishTask_todo r rest m task
    exact ⟨left, idle, there.trans (congrArg some (finishTask_withTodo ..))⟩
  cases closed : m.closed with
  | true => simp [client?, closed] at moved
  | false =>
      have unclosed : (m.withTodo (task :: other)).closed = false := closed
      cases sent : m.sent with
      | none =>
          rw [client?_send closed todo sent] at moved
          have swapped := client?_send unclosed rfl sent
          rw [show (m.withTodo (task :: other)).snapshot = m.snapshot from rfl] at swapped
          cases sends : task.command? m.snapshot with
          | some c =>
              simp only [sends, Option.some.injEq] at moved swapped
              subst moved
              exact .inl ⟨todo, swapped⟩
          | none =>
              cases ended : m.service.isRunning with
              | true => simp [sends, ended] at moved
              | false =>
                  have gone : (m.withTodo (task :: other)).service.isRunning = false := ended
                  simp only [sends, ended, gone, Bool.false_eq_true, if_false,
                    Option.some.injEq] at moved swapped
                  exact .inr (finished .done moved swapped)
      | some call =>
          rw [client?_wait closed todo sent] at moved
          have swapped := client?_wait unclosed rfl sent
          rw [show (m.withTodo (task :: other)).service = m.service from rfl] at swapped
          cases status : m.service.callStatus call with
          | outstanding => simp [status] at moved
          | answered r =>
              simp only [status, Option.some.injEq] at moved swapped
              exact .inr (finished r moved swapped)
          | closed =>
              simp only [status, Option.some.injEq] at moved swapped
              subst moved
              exact .inl ⟨todo, swapped⟩

theorem progress?_eq_none :
    m.progress? e = none ↔ m.client? = none ∧ m.service.progress? e = none := by
  unfold progress?
  cases m.client? with
  | some n => simp
  | none => cases m.service.progress? e <;> simp [withService]

/-- A family of states of which every move leads to one with a smaller bound, and which has no
outcome but one. -/
structure Heads (e : Engine) (outcome : Option Report) (P : Nat → Machine → Prop) : Prop where
  client {n m m'} : P n m → m.client? = some m' → ∃ k < n, P k m'
  goes {n m u} : P n m → Service.Goes e m.service u → ∃ k < n, P k { m with service := u }
  ends {n m} : P n m → m.outcome? = none ∨ m.outcome? = some outcome
  goes_on {n m} : P n m → m.outcome? = none → m.progress? e ≠ none
  stays {n m} : P n m → m.service.hangUp? = none
  mono {k n m} : P k m → k ≤ n → P n m

namespace Heads

variable {outcome : Option Report} {P : Nat → Machine → Prop} {n : Nat}

theorem step (heads : Heads e outcome P) {move : Move} (here : P n m)
    (moved : m.step? e move = some m') : ∃ k < n, P k m' := by
  have served {r : Option (Service World)} (all : ∀ u, r = some u → Service.Goes e m.service u)
      (moved : m.withService r = some m') : ∃ k < n, P k m' := by
    cases r with
    | none => cases moved
    | some u =>
        cases moved
        exact heads.goes here (all u rfl)
  cases move with
  | client => exact heads.client here moved
  | enqueue => exact served (fun _ => .enqueue) moved
  | takeCommand => exact served (fun _ => .takeCommand) moved
  | takeOutcome => exact served (fun _ => .takeOutcome) moved
  | start id => exact served (fun _ => .start) moved
  | finish id => exact served (fun _ => .finish) moved

/-- The fixed rule makes one of the moves that can be made. -/
theorem progress_step (heads : Heads e outcome P) (here : P n m)
    (moved : m.progress? e = some m') : ∃ move, m.step? e move = some m' := by
  simp only [progress?, Option.orElse_eq_orElse, Option.orElse_eq_or,
    Option.or_eq_some_iff] at moved
  obtain sent | ⟨-, moved⟩ := moved
  · exact ⟨.client, sent⟩
  · cases served : m.service.progress? e with
    | none => rw [served] at moved; cases moved
    | some u =>
        rw [served] at moved
        cases Service.progress?_goes (heads.stays here) served with
        | enqueue done => exact ⟨.enqueue, by rw [step?, done, moved]⟩
        | takeCommand done => exact ⟨.takeCommand, by rw [step?, done, moved]⟩
        | takeOutcome done => exact ⟨.takeOutcome, by rw [step?, done, moved]⟩
        | @start id done => exact ⟨.start id, by rw [step?, done, moved]⟩
        | @finish id done => exact ⟨.finish id, by rw [step?, done, moved]⟩

theorem can_move (heads : Heads e outcome P) (here : P n m) (unfinished : m.outcome? = none) :
    ∃ move next, m.step? e move = some next := by
  obtain ⟨next, moved⟩ := Option.ne_none_iff_exists'.mp (heads.goes_on here unfinished)
  obtain ⟨move, step⟩ := heads.progress_step here moved
  exact ⟨move, next, step⟩

/-- A run stays in the family and makes no more moves than were left. -/
theorem run (heads : Heads e outcome P) {moves : List Move} (here : P n m)
    (ran : run? e moves m = some m') : ∃ k, P k m' ∧ moves.length + k ≤ n := by
  induction moves generalizing m n with
  | nil =>
      cases ran
      exact ⟨n, here, by simp⟩
  | cons move rest ih =>
      unfold run? at ran
      cases moved : m.step? e move with
      | none => rw [moved] at ran; cases ran
      | some u =>
          rw [moved] at ran
          obtain ⟨j, less, onward⟩ := heads.step here moved
          obtain ⟨k, there, le⟩ := ih onward ran
          exact ⟨k, there, by simp only [List.length_cons]; omega⟩

theorem runFor (heads : Heads e outcome P) (here : P n m) : m.runFor e n = some outcome := by
  induction n generalizing m with
  | zero =>
      unfold Machine.runFor
      obtain none | there := heads.ends here
      · obtain ⟨move, u, moved⟩ := heads.can_move here none
        obtain ⟨k, less, -⟩ := heads.step here moved
        exact absurd less (Nat.not_lt_zero k)
      · exact there
  | succ n ih =>
      unfold Machine.runFor
      obtain none | there := heads.ends here
      · obtain ⟨u, moved⟩ := Option.ne_none_iff_exists'.mp (heads.goes_on here none)
        obtain ⟨move, step⟩ := heads.progress_step here moved
        obtain ⟨k, less, onward⟩ := heads.step here step
        simp only [none, moved]
        exact ih (heads.mono onward (Nat.le_of_lt_succ less))
      · simp only [there]

end Heads

end FilterDispatch.Replay.Machine
