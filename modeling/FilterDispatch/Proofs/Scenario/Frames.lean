import FilterDispatch.Replay.Reference
import Mathlib.Logic.Function.Iterate

/-!
Frames that die.  Such a frame is found once; whatever asks for it later, finds it gone.  Events look
up no frame but their own, and what they have to tell of a frame that dies is what they can tell after
a single look-up.
-/

namespace FilterDispatch.Scenario

namespace FrameTable

variable {t u : FrameTable} {id j : FrameId} {f : TableFrame} {live : LiveFrame}

theorem find?_id (found : t.find? id = some f) : f.frame.live.id = id := by
  rw [find?] at found
  simpa using List.find?_some found

theorem find?_mark (id j : FrameId) (t : FrameTable) : (t.mark id).find? j =
    (t.find? j).map fun f => if j = id then { f with dispatched := true } else f := by
  have same : ∀ f : TableFrame,
      (if f.frame.live.id = id then { f with dispatched := true } else f).frame = f.frame := by
    intro f
    split <;> rfl
  have found : (t.mark id).find? j = (t.find? j).map fun f =>
      if f.frame.live.id = id then { f with dispatched := true } else f := by
    simp only [find?, mark, List.find?_map, Function.comp_def, same]
  rw [found]
  exact Option.map_congr fun f member => by rw [find?_id (Option.mem_def.mp member)]

theorem find?_remove (id j : FrameId) (t : FrameTable) :
    (t.remove id).find? j = if j = id then none else t.find? j := by
  simp only [find?, remove, List.find?_filter]
  by_cases same : j = id
  · subst same
    simp
  · rw [if_neg same]
    congr 1
    funext f
    by_cases own : f.frame.live.id = j
    · simp [own, same]
    · simp [own]

theorem find?_ofDeclared (frames : List DeclaredFrame) (id : FrameId) : (ofDeclared frames).find? id =
    (frames.find? fun f => f.live.id = id).map fun frame => { frame } := by
  simp only [find?, ofDeclared, List.find?_map, Function.comp_def]

theorem resolve_other (other : j ≠ id) : (t.resolve id).2.find? j = t.find? j := by
  rw [resolve]
  cases t.find? id with
  | none => rfl
  | some f =>
      simp only
      split
      · rw [find?_remove, if_neg other]
      · simp [find?_mark, other]

theorem resolve_id (found : t.resolve id = (some live, u)) : live.id = id := by
  rw [resolve] at found
  cases there : t.find? id with
  | none => simp [there] at found
  | some f =>
      simp only [there] at found
      split at found
      · cases found
      · cases found
        exact find?_id there

/-- The frame dies, or it is not there. -/
def Dies (id : FrameId) (t : FrameTable) : Prop :=
  ∀ f, t.find? id = some f → f.frame.diesAfterDispatch = true

/-- The frame is not there for whoever asks next. -/
def Spent (id : FrameId) (t : FrameTable) : Prop :=
  ∀ f, t.find? id = some f → f.frame.diesAfterDispatch = true ∧ f.dispatched = true

theorem Spent.resolve_eq (spent : t.Spent id) : (t.resolve id).1 = none := by
  rw [FrameTable.resolve]
  cases there : t.find? id with
  | none => rfl
  | some f => simp [spent f there]

theorem resolve_fresh (there : t.find? id = some f) (fresh : f.dispatched = false) :
    t.resolve id = (some f.frame.live, t.mark id) := by
  rw [resolve, there]
  simp [fresh]

theorem Dies.resolve (dies : t.Dies id) : (t.resolve id).2.Spent id := by
  intro g found
  rw [FrameTable.resolve] at found
  cases there : t.find? id with
  | none => simp [there] at found
  | some f =>
      simp only [there, dies f there, Bool.true_and] at found
      split at found
      · simp [find?_remove] at found
      · simp only [find?_mark, there, Option.map_some, if_true, Option.some.injEq] at found
        subst found
        exact ⟨dies f there, rfl⟩

theorem Spent.dies (spent : t.Spent id) : t.Dies id :=
  fun f there => (spent f there).1

theorem Spent.resolve (spent : t.Spent id) (j : FrameId) : (t.resolve j).2.Spent id := by
  by_cases same : id = j
  · subst same
    exact spent.dies.resolve
  · rw [Spent, resolve_other same]
    exact spent

theorem tell_eq (frame : FrameId) (event : LiveFrame → Notification) (t : FrameTable) :
    t.tell frame event = ((t.resolve frame).1.toList.map event, (t.resolve frame).2) := by
  rw [tell]
  cases t.resolve frame with
  | mk found u => cases found <;> rfl

/-- The table after so many look-ups of a frame. -/
def lookedUp (id : FrameId) (n : Nat) (t : FrameTable) : FrameTable :=
  (fun u => (u.resolve id).2)^[n] t

theorem lookedUp_succ (id : FrameId) (n : Nat) (t : FrameTable) :
    t.lookedUp id (n + 1) = (t.resolve id).2.lookedUp id n :=
  Function.iterate_succ_apply _ n t

theorem lookedUp_other (other : j ≠ id) (n : Nat) (t : FrameTable) :
    (t.lookedUp id n).find? j = t.find? j := by
  induction n generalizing t with
  | zero => rfl
  | succ n ih => rw [lookedUp_succ, ih, resolve_other other]

theorem Spent.lookedUp (spent : t.Spent id) (j : FrameId) (n : Nat) : (t.lookedUp j n).Spent id := by
  induction n generalizing t with
  | zero => exact spent
  | succ n ih =>
      rw [lookedUp_succ]
      exact ih (spent.resolve j)

theorem Dies.lookedUp (dies : t.Dies id) (n : Nat) : (t.lookedUp id (n + 1)).Spent id := by
  rw [lookedUp_succ]
  exact dies.resolve.lookedUp id n

end FrameTable

namespace Event

/-- Whether the frame is looked up for the event.  A document that no table lets pass is none of its
frame's business. -/
def looksUp (tables : List Table) (id : FrameId) : Event → Bool
  | .document url frame => frame = id && (documentSubscription tables url).isSome
  | e => e.frame = id

/-- What there is to tell of an event after the first look-up of its frame. -/
def notice? (tables : List Table) (f : DeclaredFrame) : Event → Option Notification
  | .document url _ => (documentSubscription tables url).map fun subscription =>
    .pageAllowed { url, frame := f.live, subscription }
  | .popup url _ => (verdict tables url).subscription?.map fun subscription =>
    .popupMatched
      { url, result := (verdict tables url).result, opener := f.ancestors.head?, frame := f.live,
        subscription }
  | .request .. | .socket .. | .response .. | .rewrite .. => none

variable {tables : List Table} {e : Event} {t : FrameTable} {id : FrameId}

theorem looksUp_frame (looks : e.looksUp tables id = true) : e.frame = id := by
  cases e with
  | document url frame => exact of_decide_eq_true (Bool.and_eq_true_iff.mp looks).1
  | request => exact of_decide_eq_true looks
  | socket => exact of_decide_eq_true looks
  | response => exact of_decide_eq_true looks
  | popup => exact of_decide_eq_true looks
  | rewrite => exact of_decide_eq_true looks

theorem evaluateResource_lookedUp (tables : List Table) (url : Url) (contentType : ContentType)
    (frame : FrameId) (t : FrameTable) :
    ∃ n, (evaluateResource tables url contentType frame t).2 = t.lookedUp frame (n + 1) := by
  unfold evaluateResource
  cases resolved : t.resolve frame with
  | mk found u =>
      have once : u = t.lookedUp frame 1 := (congrArg Prod.snd resolved).symm
      cases found with
      | none => exact ⟨0, once⟩
      | some live =>
          simp only
          cases (verdict tables url).subscription? with
          | none => exact ⟨0, once⟩
          | some subscription =>
              refine ⟨1, ?_⟩
              simp only [FrameTable.tell_eq, FrameTable.resolve_id resolved,
                FrameTable.lookedUp_succ, resolved]
              rfl

theorem evaluate_lookedUp (tables : List Table) (e : Event) (t : FrameTable) :
    ∃ n, (e.evaluate tables t).2 = t.lookedUp e.frame n ∧
      (e.looksUp tables e.frame = true ↔ n ≠ 0) := by
  have resource {url : Url} {contentType : ContentType} {frame : FrameId} :
      ∃ n, (evaluateResource tables url contentType frame t).2 = t.lookedUp frame n ∧
        (decide (frame = frame) = true ↔ n ≠ 0) := by
    obtain ⟨n, after⟩ := evaluateResource_lookedUp tables url contentType frame t
    exact ⟨n + 1, after, by simp⟩
  cases e with
  | request => exact resource
  | socket => exact resource
  | response => exact resource
  | popup url frame =>
      refine ⟨1, ?_, by simp [looksUp]⟩
      change (evaluatePopup tables url frame t).2 = (t.resolve frame).2
      unfold evaluatePopup
      cases t.resolve frame with
      | mk found u =>
          cases found with
          | none => rfl
          | some live =>
              simp only
              cases (verdict tables url).subscription? <;> rfl
  | document url frame =>
      change ∃ n, (evaluateDocument tables url frame t).2 = _ ∧ _
      unfold evaluateDocument
      cases allowed : documentSubscription tables url with
      | none => exact ⟨0, rfl, by simp [looksUp, allowed]⟩
      | some subscription =>
          refine ⟨1, ?_, by simp [looksUp, allowed, Event.frame]⟩
          simp only [FrameTable.tell_eq]
          rfl
  | rewrite url frame =>
      refine ⟨1, ?_, by simp [looksUp]⟩
      change (evaluateRewrite tables url frame t).2 = (t.resolve frame).2
      unfold evaluateRewrite
      cases t.resolve frame with
      | mk found u => cases found <;> rfl

theorem evaluate_spent (spent : t.Spent e.frame) : (e.evaluate tables t).1.notifications = [] := by
  have gone := spent.resolve_eq
  have resource {url : Url} {contentType : ContentType} {frame : FrameId}
      (gone : (t.resolve frame).1 = none) :
      (evaluateResource tables url contentType frame t).1.notifications = [] := by
    unfold evaluateResource
    generalize t.resolve frame = resolved at gone
    obtain ⟨found, u⟩ := resolved
    cases gone
    rfl
  cases e with
  | request => exact resource gone
  | socket => exact resource gone
  | response => exact resource gone
  | popup url frame =>
      change (t.resolve frame).1 = none at gone
      change (evaluatePopup tables url frame t).1.notifications = []
      unfold evaluatePopup
      generalize t.resolve frame = resolved at gone
      obtain ⟨found, u⟩ := resolved
      cases gone
      rfl
  | document url frame =>
      change (t.resolve frame).1 = none at gone
      change (evaluateDocument tables url frame t).1.notifications = []
      unfold evaluateDocument
      cases documentSubscription tables url with
      | none => rfl
      | some subscription =>
          simp only [FrameTable.tell_eq, gone]
          rfl
  | rewrite url frame =>
      change (evaluateRewrite tables url frame t).1.notifications = []
      unfold evaluateRewrite
      cases t.resolve frame with
      | mk found u => cases found <;> rfl

/-- A resource is reported at the second look-up of its frame, if that finds it. -/
theorem evaluateResource_dies {url : Url} {contentType : ContentType} {frame : FrameId}
    (dies : t.Dies frame) :
    (evaluateResource tables url contentType frame t).1.notifications = [] := by
  unfold evaluateResource
  have spent := dies.resolve
  cases resolved : t.resolve frame with
  | mk found u =>
      rw [resolved] at spent
      cases found with
      | none => rfl
      | some live =>
          simp only
          cases (verdict tables url).subscription? with
          | none => rfl
          | some subscription =>
              simp only [FrameTable.tell_eq, FrameTable.resolve_id resolved, spent.resolve_eq]
              rfl

/-- Of a frame that dies and was not looked up before, one notice can be given. -/
theorem evaluate_fresh {f : DeclaredFrame} (there : t.find? e.frame = some { frame := f })
    (dies : f.diesAfterDispatch = true) :
    (e.evaluate tables t).1.notifications = (e.notice? tables f).toList := by
  have dying : t.Dies e.frame := by
    intro g found
    rw [there] at found
    cases found
    exact dies
  have found := FrameTable.resolve_fresh there rfl
  cases e with
  | request => exact evaluateResource_dies dying
  | socket => exact evaluateResource_dies dying
  | response => exact evaluateResource_dies dying
  | popup url frame =>
      have same : f.live.id = frame := FrameTable.find?_id there
      have ancestors : (t.mark frame).ancestors f.live.id = f.ancestors := by
        have marked : (t.mark frame).find? f.live.id = some { frame := f, dispatched := true } := by
          rw [same, FrameTable.find?_mark, show t.find? frame = _ from there]
          simp
        rw [FrameTable.ancestors, marked]
      change t.resolve frame = (some f.live, t.mark frame) at found
      change (evaluatePopup tables url frame t).1.notifications = _
      rw [evaluatePopup, found, notice?]
      simp only [ancestors]
      cases (verdict tables url).subscription? <;> rfl
  | document url frame =>
      change (evaluateDocument tables url frame t).1.notifications = _
      rw [evaluateDocument, notice?]
      cases documentSubscription tables url with
      | none => rfl
      | some subscription =>
          simp only [FrameTable.tell_eq, show t.resolve frame = _ from found]
          rfl
  | rewrite url frame =>
      change (evaluateRewrite tables url frame t).1.notifications = _
      rw [evaluateRewrite, show t.resolve frame = _ from found]
      rfl

def tableAfter (tables : List Table) : List Event → FrameTable → FrameTable
  | [], t => t
  | e :: rest, t => tableAfter tables rest (e.evaluate tables t).2

theorem tableAfter_unlooked (past : List Event) (t : FrameTable)
    (unlooked : past.any (·.looksUp tables id) = false) :
    (tableAfter tables past t).find? id = t.find? id := by
  induction past generalizing t with
  | nil => rfl
  | cons e rest ih =>
      obtain ⟨here, later⟩ := Bool.or_eq_false_iff.mp unlooked
      have same : (e.evaluate tables t).2.find? id = t.find? id := by
        obtain ⟨n, after, looks⟩ := evaluate_lookedUp tables e t
        rw [after]
        by_cases own : e.frame = id
        · have never : n = 0 := by
            subst own
            by_contra once
            exact Bool.false_ne_true (here.symm.trans (looks.mpr once))
          rw [never]
          rfl
        · exact FrameTable.lookedUp_other (Ne.symm own) n t
      exact (ih (e.evaluate tables t).2 later).trans same

theorem tableAfter_spent (past : List Event) (spent : t.Spent id) :
    (tableAfter tables past t).Spent id := by
  induction past generalizing t with
  | nil => exact spent
  | cons e rest ih =>
      obtain ⟨n, after, -⟩ := evaluate_lookedUp tables e t
      have still : (e.evaluate tables t).2.Spent id := by
        rw [after]
        exact spent.lookedUp e.frame n
      exact ih still

theorem tableAfter_looked {past : List Event} (dies : t.Dies id)
    (looked : past.any (·.looksUp tables id) = true) : (tableAfter tables past t).Spent id := by
  induction past generalizing t with
  | nil => cases looked
  | cons e rest ih =>
      obtain ⟨n, after, looks⟩ := evaluate_lookedUp tables e t
      cases here : e.looksUp tables id with
      | true =>
          have own := looksUp_frame here
          rw [own, here] at looks
          obtain ⟨k, rfl⟩ := Nat.exists_eq_succ_of_ne_zero (looks.mp rfl)
          have gone : (e.evaluate tables t).2.Spent id := by
            rw [after, own]
            exact dies.lookedUp k
          exact tableAfter_spent rest gone
      | false =>
          rw [List.any_cons, here, Bool.false_or] at looked
          refine ih ?_ looked
          have same : (tableAfter tables [e] t).find? id = t.find? id :=
            tableAfter_unlooked [e] t (by simp [here])
          intro f there
          exact dies f (same.symm.trans there)

end Event

end FilterDispatch.Scenario
