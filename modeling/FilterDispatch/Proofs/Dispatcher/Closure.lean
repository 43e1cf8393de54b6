import FilterDispatch.Proofs.Dispatcher.Runs

/-!
Operations are made of actions on the stage.  What every action keeps, every operation keeps, whichever
way it ends.
-/

namespace FilterDispatch

variable {σ : Type} [Host σ]

/-- A relation that holds along every action of the stage that asks something. -/
structure Stage.Asked (R : Stage σ → Stage σ → Prop) : Prop where
  resolve : ∀ frame, Control.Along R (Stage.resolve frame)
  ancestorsOf : ∀ live, Control.Along R (Stage.ancestorsOf live)
  siteKeyFor : ∀ urls, Control.Along R (Stage.siteKeyFor urls)
  classify : ∀ call, Control.Along R (Stage.classify call)

/-- A relation that holds along every action of the stage. -/
structure Stage.Kept (R : Stage σ → Stage σ → Prop) : Prop extends Stage.Asked R where
  answer : ∀ call a, Control.Along R (Stage.answer call a)
  pass : ∀ n, Control.Along R (Stage.note (.pass n))
  tell : ∀ o n, Control.Along R (Stage.tell o n)

/-- A relation that holds along whatever the host is asked. -/
structure Host.Asked (R : σ → σ → Prop) : Prop where
  resolve : ∀ frame, Control.Along R (Host.resolve frame)
  ancestorChain : ∀ live, Control.Along R (Host.ancestorChain live)
  findSiteKey : ∀ urls, Control.Along R (Host.findSiteKey urls)
  classifyInline : ∀ call, Control.Along R (Host.classifyInline call)

namespace Stage

def OnHost (R : σ → σ → Prop) (s t : Stage σ) : Prop :=
  R s.host t.host

variable {R : σ → σ → Prop}

omit [Host σ] in
instance [IsPreorder σ R] : IsPreorder (Stage σ) (OnHost R) where
  refl s := refl_of R s.host
  trans _ _ _ first later := trans_of R first later

omit [Host σ] in
theorem act_along {α : Type} {m : Control σ α} (kept : Control.Along R m) :
    Control.Along (OnHost R) (act m) := by
  intro s
  have along := kept s.host
  unfold Control.final at along ⊢
  unfold act
  cases h : m s.host with
  | ok a k =>
      rw [h] at along
      exact along
  | error p k =>
      rw [h] at along
      exact along

variable [IsPreorder σ R]

omit [Host σ] in
theorem note_along (e : Effect) : Control.Along (OnHost R) (note e : Control (Stage σ) Unit) :=
  fun s => refl_of R s.host

theorem answer_along {call : CallId} {a : Answer} (kept : Control.Along R (Host.receive call a)) :
    Control.Along (OnHost R) (answer call a : Control (Stage σ) Unit) :=
  (note_along _).bind fun _ => act_along kept

theorem tell_along {o : ObserverId} {n : Notification} (kept : Control.Along R (Host.observe o n)) :
    Control.Along (OnHost R) (tell o n : Control (Stage σ) Unit) :=
  (note_along _).bind fun _ => act_along kept

end Stage

theorem Host.Asked.mono {R S : σ → σ → Prop} (asked : Host.Asked R)
    (weaker : ∀ h k, R h k → S h k) : Host.Asked S where
  resolve frame := (asked.resolve frame).mono weaker
  ancestorChain live := (asked.ancestorChain live).mono weaker
  findSiteKey urls := (asked.findSiteKey urls).mono weaker
  classifyInline call := (asked.classifyInline call).mono weaker

theorem Host.Asked.onHost {R : σ → σ → Prop} [IsPreorder σ R] (kept : Host.Asked R) :
    Stage.Asked (Stage.OnHost R) where
  resolve frame := (Stage.act_along (kept.resolve frame)).bind fun _ =>
    (Stage.note_along _).bind fun _ => .pure _
  ancestorsOf live := (Stage.act_along (kept.ancestorChain live)).bind fun _ =>
    (Stage.note_along _).bind fun _ => .pure _
  siteKeyFor urls := (Stage.act_along (kept.findSiteKey urls)).bind fun found =>
    (Stage.note_along _).bind fun _ => by cases found <;> exact .pure _
  classify call := (Stage.note_along _).bind fun _ => Stage.act_along (kept.classifyInline call)

namespace Dispatcher

def OnStage (R : Stage σ → Stage σ → Prop) (d e : Dispatcher σ) : Prop :=
  R d.stage e.stage

section

omit [Host σ]

variable {R : Stage σ → Stage σ → Prop}

theorem onStage_along {α : Type} {m : Control (Stage σ) α} (kept : Control.Along R m) :
    Control.Along (OnStage R) (onStage m : Control (Dispatcher σ) α) := by
  intro d
  have along := kept d.stage
  unfold Control.final at along ⊢
  rw [onStage_apply]
  cases h : m d.stage with
  | ok a s =>
      rw [h] at along
      exact along
  | error p s =>
      rw [h] at along
      exact along

variable [IsPreorder (Stage σ) R]

instance : IsPreorder (Dispatcher σ) (OnStage R) where
  refl d := refl_of R d.stage
  trans _ _ _ first later := trans_of R first later

theorem modify_along {f : Dispatcher σ → Dispatcher σ} (same : ∀ d, (f d).stage = d.stage) :
    Control.Along (OnStage R) (modify f : Control (Dispatcher σ) Unit) := by
  intro d
  change R d.stage (f d).stage
  rw [same]
  exact refl_of R d.stage

end

variable {R : Stage σ → Stage σ → Prop} [IsPreorder (Stage σ) R]

theorem context_along (asked : Stage.Asked R) (frame : FrameId) :
    Control.Along R (Stage.context frame) := by
  refine (asked.resolve frame).bind ?_
  intro found
  cases found with
  | none => exact .pure _
  | some live => exact (asked.ancestorsOf live).bind fun _ => .pure _

theorem see_along (asked : Stage.Asked R) (c : Call) :
    Control.Along R (c.see : Control (Stage σ) _) := by
  refine (context_along asked c.frame).bind ?_
  intro found
  cases found with
  | none => exact .pure _
  | some shown =>
      simp only
      split
      · exact (asked.siteKeyFor _).bind fun _ => .pure _
      · exact .pure _

theorem place_along (asked : Stage.Asked R)
    (answered : ∀ call a, Control.Along R (Stage.answer call a)) (c : Call) :
    Control.Along (OnStage R) (place c : Control (Dispatcher σ) Unit) := by
  refine (onStage_along (see_along asked c)).bind ?_
  intro found
  cases found with
  | none => exact onStage_along (answered _ _)
  | some sight => exact modify_along fun _ => rfl

theorem passOver_along {n : Notification} (heard : ∀ o, Control.Along R (Stage.tell o n))
    (os : List ObserverId) :
    Control.Along (fun s t : ObserverList × Stage σ => R s.2 t.2)
      (ObserverList.passOver (fun o => inPass (Stage.tell o n)) os) := by
  have : IsPreorder (ObserverList × Stage σ) fun s t => R s.2 t.2 :=
    { refl := fun s => refl_of R s.2, trans := fun _ _ _ first later => trans_of R first later }
  induction os with
  | nil => exact .pure _
  | cons o rest ih =>
      have told : Control.Along (fun s t : ObserverList × Stage σ => R s.2 t.2)
          (inPass (Stage.tell o n)) := by
        intro s
        have along := heard o s.2
        unfold Control.final at along ⊢
        unfold inPass
        cases h : Stage.tell o n s.2 with
        | ok a t =>
            rw [h] at along
            exact along
        | error p t =>
            rw [h] at along
            exact along
      refine Control.Along.get.bind ?_
      intro s
      dsimp only
      split
      · exact told.bind fun _ => ih
      · exact ih

theorem announce_along {n : Notification} (passed : Control.Along R (Stage.note (.pass n)))
    (heard : ∀ o, Control.Along R (Stage.tell o n)) :
    Control.Along (OnStage R) (announce n : Control (Dispatcher σ) Unit) := by
  refine (onStage_along passed).bind ?_
  intro _ d
  have along := passOver_along heard (d.observers.prune (Host.owned d.stage.host)).entries
    ((d.observers.prune (Host.owned d.stage.host)).collect, d.stage)
  unfold Control.final at along ⊢
  cases h : ObserverList.passOver (fun o => inPass (Stage.tell o n))
      (d.observers.prune (Host.owned d.stage.host)).entries
      ((d.observers.prune (Host.owned d.stage.host)).collect, d.stage) with
  | ok a t =>
      rw [h] at along
      simp only [ObserverList.notify_of_ok (fun s : Stage σ => Host.owned s.host) d.observers d.stage
        h]
      exact along
  | error p t =>
      rw [h] at along
      simp only [ObserverList.notify_of_error (fun s : Stage σ => Host.owned s.host) d.observers
        d.stage h]
      exact along

theorem popup_along (asked : Stage.Asked R)
    (passed : ∀ event, Control.Along R (Stage.note (.pass (.popupMatched event))))
    (heard : ∀ o event, Control.Along R (Stage.tell o (.popupMatched event))) (snapshot : Snapshot)
    (url : Url) (frame : FrameId) :
    Control.Along (OnStage R) (popup snapshot url frame : Control (Dispatcher σ) MatchResult) := by
  refine (onStage_along (context_along asked frame)).bind ?_
  intro found
  cases found with
  | none => exact .pure _
  | some shown =>
      refine (onStage_along (asked.siteKeyFor _)).bind ?_
      intro siteKey
      refine (onStage_along (asked.classify _)).bind ?_
      intro c
      cases c.subscription? with
      | none => exact .pure _
      | some subscription => exact (announce_along (passed _) (heard · _)).bind fun _ => .pure _

theorem settle_along (kept : Stage.Kept R) (entry : Pending) (out : Except JobError JobOutput) :
    Control.Along (OnStage R) (settle entry out : Control (Dispatcher σ) Unit) := by
  rw [settle_eq]
  refine Control.Along.bind ?_ ?_
  · unfold reply
    cases entry.reply? out with
    | none => exact .pure _
    | some told => exact onStage_along (kept.answer _ _)
  · intro _
    unfold report
    cases entry.report? out with
    | none => exact .pure _
    | some due =>
        refine (onStage_along (kept.resolve _)).bind ?_
        intro found
        cases found with
        | none => exact .pure _
        | some live => exact announce_along (kept.pass _) (kept.tell · _)

theorem complete_along (kept : Stage.Kept R) (f : Finished JobOutput) :
    Control.Along (OnStage R) (complete f : Control (Dispatcher σ) Unit) := by
  intro d
  cases known : d.pending.lookup f.id with
  | none =>
      rw [Control.final_ok (complete_of_none known)]
      exact refl_of R d.stage
  | some entry =>
      have along := settle_along kept entry f.output (d.forgetting f.id)
      rwa [← Control.final_congr (complete_of_some known)] at along

theorem processNext_along (kept : Stage.Kept R) :
    Control.Along (OnStage R) (processNext : Control (Dispatcher σ) Progress) := by
  refine Control.Along.get.bind ?_
  intro d
  cases d.queue.next with
  | idle => exact .pure _
  | pending => exact .pure _
  | taken f queue =>
      refine Control.Along.bind (modify_along ?_) ?_
      · exact fun _ => rfl
      · intro _
        exact (complete_along kept f).bind fun _ => .pure _

theorem processAtMost_along (kept : Stage.Kept R) (n : Nat) :
    Control.Along (OnStage R) (processAtMost n : Control (Dispatcher σ) Nat) := by
  induction n with
  | zero => exact .pure _
  | succ n ih =>
      refine Control.Along.get.bind ?_
      intro d
      cases d.queue.tryNext with
      | none => exact .pure _
      | some taken =>
          refine Control.Along.bind (modify_along ?_) ?_
          · exact fun _ => rfl
          · intro _
            exact (complete_along kept taken.1).bind fun _ => ih.bind fun _ => .pure _

theorem runFor_along (kept : Stage.Kept R) (n : Nat) :
    Control.Along (OnStage R) (runFor n : Control (Dispatcher σ) Progress) := by
  induction n with
  | zero => exact .pure _
  | succ n ih =>
      refine (processNext_along kept).bind ?_
      intro p
      cases p with
      | delivered => exact ih
      | idle => exact .pure _
      | pending => exact .pure _

def Op.changesHost : Op σ → Bool
  | .changeHost _ => true
  | _ => false

/-- An operation that delivers nothing asks, answers, and tells of popups only. -/
theorem perform_along_aside (asked : Stage.Asked R)
    (answered : ∀ call a, Control.Along R (Stage.answer call a))
    (passed : ∀ event, Control.Along R (Stage.note (.pass (.popupMatched event))))
    (heard : ∀ o event, Control.Along R (Stage.tell o (.popupMatched event))) (engine : Engine)
    {op : Op σ} (acts : op.changesHost = false) (stays : op.drains = false)
    (own : op.injects = false) : Control.Along (OnStage R) (perform engine op) := by
  have idle {f : Dispatcher σ → Dispatcher σ} (same : ∀ d, (f d).stage = d.stage) :
      Control.Along (OnStage R)
        (do modify f; return .done : Control (Dispatcher σ) Response) :=
    (modify_along same).bind fun _ => .pure _
  cases mine : op.call? with
  | some c =>
      intro d
      have performed := perform_call engine mine d
      cases refusal : op.refusal? with
      | some p =>
          rw [refusal] at performed
          rw [Control.final_error performed]
          exact refl_of R d.stage
      | none =>
          rw [refusal] at performed
          have placed : Control.Along (OnStage R)
              (do place c; return .done : Control (Dispatcher σ) Response) :=
            (place_along asked answered c).bind fun _ => .pure _
          have along := placed d
          rwa [← Control.final_congr performed] at along
  | none =>
      cases op with
      | document => exact idle fun _ => rfl
      | popup => exact (popup_along asked passed heard _ _ _).bind fun _ => .pure _
      | addObserver => exact idle fun _ => rfl
      | removeObserver => exact idle fun _ => rfl
      | changeHost change => cases acts
      | start id => exact idle (start_stage id)
      | finish id => exact idle (finish_stage engine id)
      | next => cases stays
      | ready => cases stays
      | untilIdle => cases stays
      | complete f => cases own
      | _ => cases mine

/-- Only a change of the host is no action of the stage. -/
theorem perform_along (kept : Stage.Kept R) (engine : Engine) {op : Op σ}
    (acts : op.changesHost = false) : Control.Along (OnStage R) (perform engine op) := by
  cases op with
  | next => exact (processNext_along kept).bind fun _ => .pure _
  | ready =>
      refine Control.Along.bind ?_ fun _ => .pure _
      exact Control.Along.get.bind fun _ => processAtMost_along kept _
  | untilIdle =>
      refine Control.Along.bind ?_ fun _ => .pure _
      exact Control.Along.get.bind fun _ => runFor_along kept _
  | complete f => exact (complete_along kept f).bind fun _ => .pure _
  | changeHost change => cases acts
  | _ =>
      exact perform_along_aside kept.toAsked kept.answer (fun _ => kept.pass _)
        (fun o _ => kept.tell o _) engine rfl rfl rfl

end Dispatcher

end FilterDispatch
