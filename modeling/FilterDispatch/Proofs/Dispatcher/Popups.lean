import FilterDispatch.Proofs.Dispatcher.Outcomes

/-!
Popups.  The host is asked for the frame of a popup and the engine for a ruling, all in line; if a
subscription decided, observers are told before the ruling is returned.
-/

namespace FilterDispatch

def Notification.ofPopup : Notification → Bool
  | .popupMatched _ => true
  | _ => false

/-- What a popup may write: what it asks, the ruling and reports of popups. -/
def Effect.ofPopup : Effect → Bool
  | .callback .. => false
  | .pass n | .told _ n => n.ofPopup
  | _ => true

namespace Sight

variable {σ : Type} [Host σ]

/-- What the host shows of a popup's frame, one question after the other. -/
def look (frame : FrameId) : Control σ (Option Sight) := do
  match ← Host.resolve frame with
  | none => return none
  | some live =>
    let ancestors ← Host.ancestorChain live
    let siteKey := Stage.keyOf (← Host.findSiteKey ancestors)
    return some { live, ancestors, siteKey }

theorem look_eq_none {frame : FrameId} {h k : σ} :
    look frame h = .ok none k ↔ Host.resolve frame h = .ok none k := by
  simp only [look, Control.bind_eq_ok]
  constructor
  · rintro ⟨found, h', resolved, rest⟩
    cases found with
    | none =>
        cases rest
        exact resolved
    | some live =>
        obtain ⟨chain, h'', -, rest⟩ := Control.bind_eq_ok.mp rest
        obtain ⟨key, l, -, rest⟩ := Control.bind_eq_ok.mp rest
        cases rest
  · intro resolved
    exact ⟨none, k, resolved, rfl⟩

theorem look_eq_some {frame : FrameId} {s : Sight} {h k : σ} :
    look frame h = .ok (some s) k ↔ ∃ found i j, Host.resolve frame h = .ok (some s.live) i ∧
      Host.ancestorChain s.live i = .ok s.ancestors j ∧ Host.findSiteKey s.ancestors j = .ok found k ∧
      s.siteKey = Stage.keyOf found := by
  simp only [look, Control.bind_eq_ok]
  constructor
  · rintro ⟨shown, i, resolved, rest⟩
    cases shown with
    | none => cases rest
    | some live =>
        obtain ⟨chain, j, above, rest⟩ := Control.bind_eq_ok.mp rest
        obtain ⟨found, l, keyed, rest⟩ := Control.bind_eq_ok.mp rest
        cases rest
        exact ⟨found, i, j, resolved, above, keyed, rfl⟩
  · rintro ⟨found, i, j, resolved, above, keyed, same⟩
    refine ⟨some s.live, i, resolved, Control.bind_eq_ok.mpr ⟨s.ancestors, j, above, ?_⟩⟩
    refine Control.bind_eq_ok.mpr ⟨found, k, keyed, ?_⟩
    rw [← same]
    rfl

def see (frame : FrameId) : Control (Stage σ) (Option Sight) := do
  match ← Stage.context frame with
  | none => return none
  | some (live, ancestors) =>
    let siteKey ← Stage.siteKeyFor ancestors
    return some { live, ancestors, siteKey }

omit [Host σ] in
def inquiries (frame : FrameId) : Option Sight → List Effect
  | none => [.resolved frame none]
  | some s => [.resolved frame (some s.live), .ancestorsOf s.live, .siteKeyFor s.ancestors]

theorem see_cases (frame : FrameId) (s : Stage σ) :
    (∃ found h, look frame s.host = .ok found h ∧
      see frame s = .ok found (s.log (inquiries frame found) h)) ∨
    ∃ p h found new, look frame s.host = .error p h ∧ see frame s = .error p (s.log new h) ∧
      new <+: inquiries frame found := by
  simp only [see, look, Stage.context, Control.bind_apply, Stage.resolve_apply]
  cases Host.resolve frame s.host with
  | error p h => exact .inr ⟨p, h, none, [], rfl, rfl, List.nil_prefix⟩
  | ok shown h =>
      cases shown with
      | none => exact .inl ⟨none, h, rfl, rfl⟩
      | some live =>
          simp only [Control.bind_apply, Stage.ancestorsOf_apply, Stage.log_host, Stage.log_log]
          cases Host.ancestorChain live h with
          | error p k => exact .inr ⟨p, k, some ⟨live, [], {}⟩, _, rfl, rfl, ⟨_, rfl⟩⟩
          | ok chain k =>
              simp only [Control.pure_apply, Control.bind_apply, Stage.siteKeyFor_apply,
                Stage.log_host, Stage.log_log]
              cases Host.findSiteKey chain k with
              | error p l => exact .inr ⟨p, l, some ⟨live, chain, {}⟩, _, rfl, rfl, ⟨_, rfl⟩⟩
              | ok key l => exact .inl ⟨_, l, rfl, rfl⟩

omit [Host σ] in
theorem inquiries_ofPopup (frame : FrameId) (found : Option Sight) :
    ∀ x ∈ inquiries frame found, x.ofPopup := by
  cases found with
  | none => simp [inquiries, Effect.ofPopup]
  | some s => simp [inquiries, Effect.ofPopup]

omit [Host σ] in
def popupCall (snapshot : Snapshot) (url : Url) (s : Sight) : EngineCall :=
  .popup snapshot url s.ancestors s.siteKey

omit [Host σ] in
/-- What is reported of a popup, if a subscription decided. -/
def popupMatched? (url : Url) (s : Sight) (c : Classification) : Option Notification :=
  c.subscription?.map fun subscription =>
    .popupMatched
      { url, result := c.result, opener := s.ancestors.head?, frame := s.live, subscription }

end Sight

namespace Dispatcher

variable {σ : Type} [Host σ]

omit [Host σ] in
/-- All that happens on the control sequence up to the ruling. -/
def ruling (snapshot : Snapshot) (url : Url) (frame : FrameId) (s : Sight) : List Effect :=
  Sight.inquiries frame (some s) ++ [.engineCall (s.popupCall snapshot url)]

omit [Host σ] in
theorem ruling_ofPopup (snapshot : Snapshot) (url : Url) (frame : FrameId) (s : Sight) :
    ∀ x ∈ ruling snapshot url frame s, x.ofPopup := by
  intro x member
  rcases List.mem_append.mp member with inquiry | call
  · exact Sight.inquiries_ofPopup frame (some s) x inquiry
  · rw [List.mem_singleton.mp call]
    rfl

/-- The ways in which a popup can go, with all that each of them does. -/
inductive Popped (snapshot : Snapshot) (url : Url) (frame : FrameId) (d : Dispatcher σ) :
    EStateM.Result Panic (Dispatcher σ) MatchResult → Prop
  | hostPanics {p h found new} : Sight.look frame d.stage.host = .error p h →
      new <+: Sight.inquiries frame found →
      Popped snapshot url frame d (.error p (d.logged new h))
  | frameGone {h} : Sight.look frame d.stage.host = .ok none h →
      Popped snapshot url frame d (.ok .noRule (d.logged (Sight.inquiries frame none) h))
  | enginePanics {s h p k} : Sight.look frame d.stage.host = .ok (some s) h →
      Host.classifyInline (s.popupCall snapshot url) h = .error p k →
      Popped snapshot url frame d (.error p (d.logged (ruling snapshot url frame s) k))
  | undecided {s h c k} : Sight.look frame d.stage.host = .ok (some s) h →
      Host.classifyInline (s.popupCall snapshot url) h = .ok c k → s.popupMatched? url c = none →
      Popped snapshot url frame d (.ok c.result (d.logged (ruling snapshot url frame s) k))
  | reported {s h c k n told t} : Sight.look frame d.stage.host = .ok (some s) h →
      Host.classifyInline (s.popupCall snapshot url) h = .ok c k → s.popupMatched? url c = some n →
      told = (d.observers.prune (Host.owned k)).entries →
      t.effects = d.stage.effects ++
        (ruling snapshot url frame s ++ .pass n :: told.map (.told · n)) →
      Popped snapshot url frame d
        (.ok c.result { d with observers := d.observers.prune (Host.owned k), stage := t })
  | observerPanics {s h c k n told t p} : Sight.look frame d.stage.host = .ok (some s) h →
      Host.classifyInline (s.popupCall snapshot url) h = .ok c k → s.popupMatched? url c = some n →
      told <+: (d.observers.prune (Host.owned k)).entries →
      t.effects = d.stage.effects ++
        (ruling snapshot url frame s ++ .pass n :: told.map (.told · n)) →
      n.tellAll (d.observers.prune (Host.owned k)).entries k = .error p t.host →
      Popped snapshot url frame d
        (.error p { d with observers := d.observers.prune (Host.owned k), stage := t })

theorem onStage_classify (call : EngineCall) (d : Dispatcher σ) :
    onStage (Stage.classify call) d = match Host.classifyInline call d.stage.host with
      | .ok c h => .ok c (d.logged [.engineCall call] h)
      | .error p h => .error p (d.logged [.engineCall call] h) := by
  rw [onStage_apply, Stage.classify_apply]
  cases Host.classifyInline call d.stage.host with
  | ok c h => rfl
  | error p h => rfl

def rule (snapshot : Snapshot) (url : Url) (s : Sight) : Control (Dispatcher σ) MatchResult := do
  let c ← onStage (Stage.classify (s.popupCall snapshot url))
  match s.popupMatched? url c with
  | none => return c.result
  | some n => do
    announce n
    return c.result

theorem rule_apply (snapshot : Snapshot) (url : Url) (s : Sight) (d : Dispatcher σ) :
    rule snapshot url s d = match Host.classifyInline (s.popupCall snapshot url) d.stage.host with
      | .error p k => .error p (d.logged [.engineCall (s.popupCall snapshot url)] k)
      | .ok c k =>
        (match s.popupMatched? url c with
        | none => return c.result
        | some n => do
          announce n
          return c.result : Control (Dispatcher σ) MatchResult)
          (d.logged [.engineCall (s.popupCall snapshot url)] k) := by
  simp only [rule, Control.bind_apply, onStage_classify]
  cases Host.classifyInline (s.popupCall snapshot url) d.stage.host with
  | error p k => rfl
  | ok c k => rfl

theorem popup_eq (snapshot : Snapshot) (url : Url) (frame : FrameId) :
    (popup snapshot url frame : Control (Dispatcher σ) MatchResult) =
      (do match ← onStage (Sight.see frame) with
          | none => return .noRule
          | some s => rule snapshot url s) := by
  simp only [popup, Sight.see, onStage_bind, bind_assoc]
  congr 1
  funext found
  cases found with
  | none => rfl
  | some shown =>
      simp only [onStage_bind, onStage_pure, bind_assoc, pure_bind, rule, Sight.popupMatched?,
        Sight.popupCall]
      congr 1
      funext siteKey
      congr 1
      funext c
      cases c.subscription? with
      | none => rfl
      | some subscription => rfl

theorem popped (snapshot : Snapshot) (url : Url) (frame : FrameId) (d : Dispatcher σ) :
    Popped snapshot url frame d (popup snapshot url frame d) := by
  rw [popup_eq]
  rcases Sight.see_cases frame d.stage with
    ⟨found, h, looked, seen⟩ | ⟨p, h, found, new, looked, seen, first⟩
  · have shown : onStage (Sight.see frame) d = .ok found (d.logged (Sight.inquiries frame found) h) :=
      onStage_eq_ok.mpr ⟨_, seen, rfl⟩
    rw [Control.bind_of_ok _ shown]
    cases found with
    | none => exact .frameGone looked
    | some s =>
        have journal : Sight.inquiries frame (some s) ++ [.engineCall (s.popupCall snapshot url)] =
            ruling snapshot url frame s := rfl
        dsimp only
        rw [rule_apply]
        simp only [logged_host, logged_logged, journal]
        cases ruled : Host.classifyInline (s.popupCall snapshot url) h with
        | error p k => exact .enginePanics looked ruled
        | ok c k =>
            dsimp only
            cases reports : s.popupMatched? url c with
            | none => exact .undecided looked ruled reports
            | some n =>
                obtain ⟨told, t, first, effects, outcome⟩ :=
                  announce_apply n (d.logged (ruling snapshot url frame s) k)
                have all : t.effects = d.stage.effects ++
                    (ruling snapshot url frame s ++ .pass n :: told.map (.told · n)) := by
                  simp [effects]
                rcases outcome with ⟨announced, same, -⟩ | ⟨p, panicked, cause⟩
                · dsimp only
                  rw [Control.bind_of_ok _ announced]
                  exact .reported looked ruled reports same all
                · dsimp only
                  rw [Control.bind_of_error _ panicked]
                  exact .observerPanics looked ruled reports first all cause
  · have failed : onStage (Sight.see frame) d = .error p (d.logged new h) :=
      onStage_eq_error.mpr ⟨_, seen, rfl⟩
    rw [Control.bind_of_error _ failed]
    exact .hostPanics looked first

/-- Also when it panics, a popup touches no job, invokes no callback and tells of popups only. -/
theorem popup_writes (snapshot : Snapshot) (url : Url) (frame : FrameId) :
    Control.Along (Keeps (·.ofPopup = true))
      (popup snapshot url frame : Control (Dispatcher σ) MatchResult) := by
  intro d
  have logged {new : List Effect} {h : σ} (all : ∀ x ∈ new, x.ofPopup) :
      Keeps (·.ofPopup = true) d (d.logged new h) :=
    ⟨rfl, rfl, new, logged_effects new h d, all⟩
  have told {s : Sight} {c : Classification} {n : Notification} {os : List ObserverId}
      {l : ObserverList} {t : Stage σ} (reports : s.popupMatched? url c = some n)
      (effects : t.effects = d.stage.effects ++
        (ruling snapshot url frame s ++ .pass n :: os.map (.told · n))) :
      Keeps (·.ofPopup = true) d { d with observers := l, stage := t } := by
    obtain ⟨subscription, -, rfl⟩ := Option.map_eq_some_iff.mp reports
    refine ⟨rfl, rfl, _, effects, ?_⟩
    intro x member
    rcases List.mem_append.mp member with asked | telling
    · exact ruling_ofPopup snapshot url frame s x asked
    · rcases List.mem_cons.mp telling with rfl | told
      · rfl
      · obtain ⟨o, -, rfl⟩ := List.mem_map.mp told
        rfl
  have ways := popped snapshot url frame d
  unfold Control.final
  generalize popup snapshot url frame d = outcome at ways ⊢
  cases ways with
  | @hostPanics p h found new looked first =>
      exact logged fun x member => Sight.inquiries_ofPopup frame found x (first.subset member)
  | frameGone looked => exact logged (Sight.inquiries_ofPopup frame none)
  | enginePanics looked ruled => exact logged (ruling_ofPopup snapshot url frame _)
  | undecided looked ruled reports => exact logged (ruling_ofPopup snapshot url frame _)
  | reported looked ruled reports same effects => exact told reports effects
  | observerPanics looked ruled reports first effects cause => exact told reports effects

end Dispatcher

end FilterDispatch
