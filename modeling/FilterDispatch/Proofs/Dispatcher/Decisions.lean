import FilterDispatch.Proofs.Dispatcher.Callbacks

/-!
Decisions.  What a callback is told was settled when its call was made: it is the answer to a question
that was made of the arguments and of what the host showed then.
-/

namespace FilterDispatch

/-- All that decides a call made now: a question, or the answer that is given without a frame. -/
def Call.matter {σ : Type} [Host σ] (c : Call) (h : σ) : Except Answer Question :=
  match c.look h with
  | .ok (some sight) _ => .ok (c.question sight)
  | _ => .error c.denied

def Engine.decide (engine : Engine) : Except Answer Question → Answer
  | .ok q => q.answer engine
  | .error denied => denied

namespace Dispatcher

variable {σ : Type} [Host σ] {engine : Engine} {ops : List (Op σ)} {d : Dispatcher σ}
  {before after : List (Stride σ)} {s : Stride σ} {c : Call}

/-- Whatever happens between a call and the end of its job, what its callback is told is decided by
what the call saw. -/
theorem Calls.decided (h : Calls engine ops d before s after c) :
    ∀ a ∈ answersTo c.callback (run engine ops d).2.stage.effects,
      a = engine.decide (c.matter s.before.stage.host) := by
  obtain ⟨-, fate⟩ := h.fate
  intro a member
  generalize answersTo c.callback (run engine ops d).2.stage.effects = told at fate member
  cases fate with
  | denied looked none told silent =>
      rw [List.mem_singleton.mp member, Call.matter, looked]
      rfl
  | waiting looked posts quiet waits silent => cases member
  | decided looked posts quiet gone among drains takes told silent =>
      rw [List.mem_singleton.mp member, Call.matter, looked]
      rfl

/-- Two runs, on whatever hosts and in whatever order their jobs come back, tell callbacks the same
if their calls saw the same. -/
theorem decided_at_dispatch (h : Calls engine ops d before s after c) :
    (∀ a ∈ answersTo c.callback (run engine ops d).2.stage.effects,
      a = engine.decide (c.matter s.before.stage.host)) ∧
    ∀ {τ : Type} [Host τ] {ops' : List (Op τ)} {d' : Dispatcher τ} {before' after' : List (Stride τ)}
      {s' : Stride τ} {c' : Call}, Calls engine ops' d' before' s' after' c' →
      c.matter s.before.stage.host = c'.matter s'.before.stage.host →
      ∀ a ∈ answersTo c.callback (run engine ops d).2.stage.effects,
      ∀ a' ∈ answersTo c'.callback (run engine ops' d').2.stage.effects, a = a' := by
  refine ⟨h.decided, fun h' same a told a' told' => ?_⟩
  rw [h.decided a told, h'.decided a' told', same]

/-- A rewrite is told the same in a quiet run and in one where its frame goes away meanwhile and
another job comes back first. -/
theorem rewrite_decided_at_dispatch :
    let live : LiveFrame := ⟨⟨1, 2⟩, ⟨"https://a.example/"⟩⟩
    let url : Url := ⟨"https://b.example/"⟩
    let snapshot : Snapshot := [⟨0, fun _ => .ok (some url)⟩]
    let engine : Engine := ⟨fun _ => .error .value⟩
    let start : Dispatcher Register := { queue := { free := 2 }, stage := { host := ⟨[live]⟩ } }
    let quiet : List (Op Register) :=
      [.rewrite snapshot url live.id 7, .start 0, .finish 0, .next]
    let busy : List (Op Register) :=
      [.rewrite snapshot url live.id 7, .response [] url .other live.id {} 8,
        .changeHost fun _ => ⟨[]⟩, .start 1, .finish 1, .start 0, .finish 0, .ready]
    ∀ a ∈ answersTo 7 (run engine quiet start).2.stage.effects,
    ∀ b ∈ answersTo 7 (run engine busy start).2.stage.effects, a = b := by
  intro live url snapshot engine start quiet busy
  have first : Calls engine quiet start [] (stride engine (.rewrite snapshot url live.id 7) start) _
      (.rewrite snapshot url live.id 7) :=
    ⟨⟨2, _, rfl⟩, by decide, by decide, rfl, rfl, _, rfl⟩
  have second : Calls engine busy start [] (stride engine (.rewrite snapshot url live.id 7) start) _
      (.rewrite snapshot url live.id 7) :=
    ⟨⟨2, _, rfl⟩, by decide, by decide, rfl, rfl, _, rfl⟩
  intro a told b told'
  exact (decided_at_dispatch first).2 second rfl a told b told'

end Dispatcher

end FilterDispatch
