import FilterDispatch.Panic
import Mathlib.Order.Defs.Unbundled

/-! Steps on the control sequence: how they compose, and relations that hold along them even where
a panic cuts them short. -/

namespace FilterDispatch.Control

variable {σ α β : Type}

/-- The state in which a step ends, with a value or with a panic. -/
def final (m : Control σ α) (s : σ) : σ :=
  match m s with
  | .ok _ t => t
  | .error _ t => t

theorem final_ok {m : Control σ α} {s t : σ} {a : α} (h : m s = .ok a t) : final m s = t := by
  simp only [final, h]

theorem final_error {m : Control σ α} {s t : σ} {p : Panic} (h : m s = .error p t) :
    final m s = t := by
  simp only [final, h]

theorem final_congr {m n : Control σ α} {s t : σ} (h : m s = n t) : final m s = final n t := by
  simp only [final, h]

theorem pure_apply (a : α) (s : σ) : (pure a : Control σ α) s = .ok a s := rfl

theorem get_apply (s : σ) : (get : Control σ σ) s = .ok s s := rfl

theorem modify_apply (f : σ → σ) (s : σ) : (modify f : Control σ Unit) s = .ok () (f s) := rfl

theorem bind_apply (m : Control σ α) (f : α → Control σ β) (s : σ) :
    (m >>= f) s = match m s with
      | .ok a t => f a t
      | .error p t => .error p t := by
  change EStateM.bind m f s = _
  unfold EStateM.bind
  cases m s with
  | ok a t => rfl
  | error p t => rfl

theorem bind_of_ok {m : Control σ α} (f : α → Control σ β) {s t : σ} {a : α}
    (h : m s = .ok a t) : (m >>= f) s = f a t := by
  rw [bind_apply, h]

theorem bind_of_error {m : Control σ α} (f : α → Control σ β) {s t : σ} {p : Panic}
    (h : m s = .error p t) : (m >>= f) s = .error p t := by
  rw [bind_apply, h]

theorem bind_eq_ok {m : Control σ α} {f : α → Control σ β} {s u : σ} {b : β} :
    (m >>= f) s = .ok b u ↔ ∃ a t, m s = .ok a t ∧ f a t = .ok b u := by
  rw [bind_apply]
  cases m s with
  | ok a t => simp [and_assoc]
  | error p t => simp

theorem bind_eq_error {m : Control σ α} {f : α → Control σ β} {s u : σ} {p : Panic} :
    (m >>= f) s = .error p u ↔ m s = .error p u ∨ ∃ a t, m s = .ok a t ∧ f a t = .error p u := by
  rw [bind_apply]
  cases m s with
  | ok a t => simp [and_assoc]
  | error q t => simp

theorem map_eq_error {m : Control σ α} {f : α → β} {s t : σ} {p : Panic} :
    (do return f (← m) : Control σ β) s = .error p t ↔ m s = .error p t := by
  rw [bind_eq_error]
  simp [pure_apply]

theorem final_bind_ok {m : Control σ α} (f : α → Control σ β) {s t : σ} {a : α}
    (h : m s = .ok a t) : final (m >>= f) s = final (f a) t := by
  simp only [final, bind_of_ok f h]

theorem final_bind_error {m : Control σ α} (f : α → Control σ β) {s t : σ} {p : Panic}
    (h : m s = .error p t) : final (m >>= f) s = t :=
  final_error (bind_of_error f h)

/-- The panic that ends a step, if one does, and the state in which it ends. -/
def ending (m : Control σ α) (s : σ) : Option Panic × σ :=
  match m s with
  | .ok _ t => (none, t)
  | .error p t => (some p, t)

theorem ending_ok {m : Control σ α} {s t : σ} {a : α} (h : m s = .ok a t) :
    ending m s = (none, t) := by
  simp only [ending, h]

theorem ending_error {m : Control σ α} {s t : σ} {p : Panic} (h : m s = .error p t) :
    ending m s = (some p, t) := by
  simp only [ending, h]

theorem ending_snd (m : Control σ α) (s : σ) : (ending m s).2 = final m s := by
  unfold ending final
  cases m s with
  | ok a t => rfl
  | error p t => rfl

theorem ending_map (m : Control σ α) (f : α → β) (s : σ) :
    ending (do return f (← m)) s = ending m s := by
  cases h : m s with
  | ok a t =>
      have mapped : (do return f (← m) : Control σ β) s = .ok (f a) t := bind_of_ok _ h
      rw [ending_ok h, ending_ok mapped]
  | error p t =>
      have failed : (do return f (← m) : Control σ β) s = .error p t := bind_of_error _ h
      rw [ending_error h, ending_error failed]

theorem final_map (m : Control σ α) (f : α → β) (s : σ) :
    final (do return f (← m)) s = final m s := by
  rw [← ending_snd, ending_map, ending_snd]

/-- `R` leads from the start of `m` to its end, whichever way it ends. -/
def Along (R : σ → σ → Prop) (m : Control σ α) : Prop :=
  ∀ s, R s (final m s)

theorem Along.mono {R S : σ → σ → Prop} {m : Control σ α} (along : Along R m)
    (weaker : ∀ s t, R s t → S s t) : Along S m :=
  fun s => weaker s _ (along s)

namespace Along

variable {R : σ → σ → Prop} [IsPreorder σ R]

theorem pure (a : α) : Along R (Pure.pure a : Control σ α) :=
  fun s => refl_of R s

theorem get : Along R (MonadState.get : Control σ σ) :=
  fun s => refl_of R s

theorem bind {m : Control σ α} {f : α → Control σ β} (first : Along R m)
    (rest : ∀ a, Along R (f a)) : Along R (m >>= f) := by
  intro s
  have step := first s
  cases h : m s with
  | ok a t =>
      rw [final_bind_ok f h]
      rw [final_ok h] at step
      exact trans_of R step (rest a t)
  | error p t =>
      rw [final_bind_error f h]
      rwa [final_error h] at step

end Along

end FilterDispatch.Control
