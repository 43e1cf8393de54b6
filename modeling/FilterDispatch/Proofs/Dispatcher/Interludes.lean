import FilterDispatch.Proofs.Dispatcher.Audience
import FilterDispatch.Proofs.Dispatcher.Decisions
import FilterDispatch.Proofs.Dispatcher.Pages
import FilterDispatch.Proofs.Dispatcher.Registrations
import FilterDispatch.Proofs.Dispatcher.Twins

/-!
Interludes.  A popup is ruled on in line, as a request would be that asks for the same, and no job
knows of it.  If it leaves the host as it is, a run goes on after it as it would have gone without.
-/

namespace FilterDispatch

variable {σ : Type} [Host σ]

/-- The engine says of a request what is said in line of a popup. -/
def Engine.Concurs (σ : Type) [Host σ] (engine : Engine) (snapshot : Snapshot) (url : Url)
    (contentType : ContentType) : Prop :=
  ∀ ancestors siteKey (h : σ) c k,
    Host.classifyInline (.popup snapshot url ancestors siteKey) h = .ok c k →
      engine.classify (.request snapshot url ancestors contentType siteKey) = .ok c

theorem Call.look_request (snapshot : Snapshot) (url : Url) (contentType : ContentType)
    (frame : FrameId) (callback : CallId) :
    (Call.request snapshot url contentType frame callback).look =
      (Sight.look frame : Control σ (Option Sight)) := rfl

/-- The host takes no part in popups: it is the same after it was asked something, and after an
observer was told of a popup.  Whatever else it does, observers that have been made and died stay
dead. -/
structure Inert (made : σ → ObserverId → Prop) : Prop where
  asked : Host.Asked (Eq : σ → σ → Prop)
  popup : ∀ o event, Control.Along Eq (Host.observe o (.popupMatched event) : Control σ Unit)
  receive : ∀ call a, Control.Along (Mortal made) (Host.receive call a)
  observe : ∀ o n, Control.Along (Mortal made) (Host.observe o n)

namespace Inert

variable {made : σ → ObserverId → Prop}

theorem kept (inert : Inert made) : Stage.Kept (Stage.OnHost (Mortal made)) := by
  have asked : Host.Asked (Mortal made) := by
    apply inert.asked.mono
    rintro h _ rfl
    exact refl_of (Mortal made) h
  exact ⟨asked.onHost, fun call a => Stage.answer_along (inert.receive call a),
    fun n => Stage.note_along _, fun o n => Stage.tell_along (inert.observe o n)⟩

theorem look_along (inert : Inert made) (frame : FrameId) :
    Control.Along Eq (Sight.look frame : Control σ (Option Sight)) := by
  refine (inert.asked.resolve frame).bind fun found => ?_
  cases found with
  | none => exact .pure _
  | some live =>
      exact (inert.asked.ancestorChain live).bind fun _ =>
        (inert.asked.findSiteKey _).bind fun _ => .pure _

theorem passStart (inert : Inert made) {snapshot : Snapshot} {url : Url} {frame : FrameId} {h k : σ}
    (start : Sight.passStart? snapshot url frame h = some k) : k = h := by
  have looking := inert.look_along frame h
  unfold Sight.passStart? at start
  split at start
  · next s after looked =>
      rw [Control.final_ok looked] at looking
      split at start
      · next c l ruled =>
          have ruling := inert.asked.classifyInline (s.popupCall snapshot url) after
          rw [Control.final_ok ruled] at ruling
          obtain ⟨n, -, rfl⟩ := Option.map_eq_some_iff.mp start
          exact (looking.trans ruling).symm
      · cases start
  · cases start

end Inert

theorem filterMap_apart {α : Type} {f : Effect → Option α} (apart : ∀ x, x.ofPopup → f x = none)
    (effects : List Effect) : (effects.filter (!·.ofPopup)).filterMap f = effects.filterMap f := by
  rw [List.filterMap_filter]
  congr 1
  funext x
  cases popup : x.ofPopup with
  | false => rfl
  | true => exact (apart x popup).symm

theorem reportsOf_apart {α : Type} {sort : Notification → Option α}
    (apart : ∀ event, sort (.popupMatched event) = none) (effects : List Effect) :
    reportsOf sort (effects.filter (!·.ofPopup)) = reportsOf sort effects := by
  simp only [reportsOf, List.filterMap_filterMap]
  apply filterMap_apart
  intro x popup
  cases x with
  | pass n =>
      cases n with
      | popupMatched event => exact apart event
      | _ => cases popup
  | _ => rfl

theorem heard_apart (o : ObserverId) (effects : List Effect) :
    (heard o (effects.filter (!·.ofPopup))).filter (!·.ofPopup) =
      (heard o effects).filter (!·.ofPopup) := by
  simp only [heard, List.filter_filterMap]
  apply filterMap_apart
  intro x popup
  cases x with
  | told other n =>
      have popup : n.ofPopup = true := popup
      by_cases same : other = o <;> simp [Effect.heardBy?, same, popup]
  | _ => rfl

namespace Dispatcher

/-- The pass over a popup: there is one if a subscription decided. -/
def popupPass (url : Url) (live : LiveFrame) (ancestors : List Url) (c : Classification)
    (os : List ObserverId) : List Effect :=
  match c.subscription? with
  | none => []
  | some subscription =>
    passOver
      (.popupMatched
        { url, result := c.result, opener := ancestors.head?, frame := live, subscription }) os

/-- What the host is asked for a popup, what the popup comes to then, and all that it writes. -/
inductive Ruled (snapshot : Snapshot) (url : Url) (frame : FrameId) (d : Dispatcher σ) :
    MatchResult → List Effect → Prop
  | gone {h} : Host.resolve frame d.stage.host = .ok none h →
      Ruled snapshot url frame d .noRule [.resolved frame none]
  | found {live ancestors page h i j c k} : Host.resolve frame d.stage.host = .ok (some live) h →
      Host.ancestorChain live h = .ok ancestors i → Host.findSiteKey ancestors i = .ok page j →
      Host.classifyInline (.popup snapshot url ancestors (Stage.keyOf page)) j = .ok c k →
      Ruled snapshot url frame d c.result
        ([.resolved frame (some live), .ancestorsOf live, .siteKeyFor ancestors,
            .engineCall (.popup snapshot url ancestors (Stage.keyOf page))] ++
          popupPass url live ancestors c (d.observers.prune (Host.owned k)).entries)

variable {engine : Engine} {op : Op σ} {ops ops' : List (Op σ)} {d e : Dispatcher σ}
  {snapshot : Snapshot} {url : Url} {frame : FrameId} {r : MatchResult} {new : List Effect}

theorem popup_ruled (fine : popup snapshot url frame d = .ok r e) :
    ∃ new, e.stage.effects = d.stage.effects ++ new ∧ Ruled snapshot url frame d r new := by
  have ways := popped snapshot url frame d
  rw [fine] at ways
  cases ways with
  | frameGone looked => exact ⟨_, logged_effects _ _ d, .gone (Sight.look_eq_none.mp looked)⟩
  | @undecided s h c k looked ruled reports =>
      obtain ⟨live, ancestors, siteKey⟩ := s
      obtain ⟨page, i, j, resolved, above, keyed, same⟩ := Sight.look_eq_some.mp looked
      cases same
      refine ⟨_, logged_effects _ _ d, ?_⟩
      have written := Ruled.found resolved above keyed ruled
      rwa [popupPass, Option.map_eq_none_iff.mp reports] at written
  | @reported s h c k n told t looked ruled reports same effects =>
      obtain ⟨live, ancestors, siteKey⟩ := s
      obtain ⟨page, i, j, resolved, above, keyed, same⟩ := Sight.look_eq_some.mp looked
      obtain ⟨subscription, decided, rfl⟩ := Option.map_eq_some_iff.mp reports
      cases same
      refine ⟨_, effects, ?_⟩
      have written := Ruled.found resolved above keyed ruled
      rw [popupPass, decided] at written
      subst_vars
      exact written

theorem Ruled.agrees (ruled : Ruled snapshot url frame d r new) {contentType : ContentType}
    (concurs : engine.Concurs σ snapshot url contentType) (callback : CallId) :
    engine.decide ((Call.request snapshot url contentType frame callback).matter d.stage.host) =
      .result r := by
  cases ruled with
  | gone resolved =>
      rw [Call.matter, Call.look_request, Sight.look_eq_none.mpr resolved]
      rfl
  | @found live ancestors page h i j c k resolved above keyed ruled =>
      have looked :
          Sight.look frame d.stage.host = .ok (some ⟨live, ancestors, Stage.keyOf page⟩) j :=
        Sight.look_eq_some.mpr ⟨page, h, i, resolved, above, keyed, rfl⟩
      have asked := concurs _ _ _ _ _ ruled
      rw [Call.matter, Call.look_request, looked]
      simp only [Engine.decide, Call.request, Question.answer, asked]

/-- What comes of a popup that does not panic. -/
structure Interlude (snapshot : Snapshot) (url : Url) (frame : FrameId) (d : Dispatcher σ)
    (r : MatchResult) (e : Dispatcher σ) : Prop where
  ruled : ∃ new, e.stage.effects = d.stage.effects ++ new ∧ Ruled snapshot url frame d r new
  queue : e.queue = d.queue
  pending : e.pending = d.pending
  agrees : ∀ (engine : Engine) contentType callback, engine.Concurs σ snapshot url contentType →
    engine.decide ((Call.request snapshot url contentType frame callback).matter d.stage.host) =
      .result r

theorem interlude (fine : popup snapshot url frame d = .ok r e) :
    Interlude snapshot url frame d r e := by
  have kept := popup_writes snapshot url frame d
  rw [Control.final_ok fine] at kept
  obtain ⟨new, grown, ruled⟩ := popup_ruled fine
  exact ⟨⟨new, grown, ruled⟩, kept.queue, kept.pending,
    fun engine contentType callback concurs => ruled.agrees concurs callback⟩

variable {made : σ → ObserverId → Prop}

theorem Twin.after_popup (inert : Inert made) (twin : Twin made d e) (snapshot : Snapshot)
    (url : Url) (frame : FrameId) : Twin made (Control.final (popup snapshot url frame) d) e := by
  have kept := popup_writes snapshot url frame d
  have still : d.stage.host = (Control.final (popup snapshot url frame) d).stage.host :=
    popup_along inert.asked.onHost (fun _ => Stage.note_along _)
      (fun o event => Stage.tell_along (inert.popup o event)) snapshot url frame d
  have swept := popup_observers snapshot url frame d
  refine ⟨twin.queue.trans kept.queue.symm, twin.pending.trans kept.pending.symm,
    twin.host.trans still, ?_, ?_, twin.sound'⟩
  · rw [← still, swept, twin.living]
    cases start : Sight.passStart? snapshot url frame d.stage.host with
    | none => rfl
    | some k =>
        rw [inert.passStart start]
        exact (ObserverList.prune_prune fun _ _ => id).symm
  · intro o there
    rw [swept] at there
    rw [← still]
    exact twin.sound o ((ObserverList.sweep_sublist _ _).subset there)

theorem Together.step {first second : List Effect}
    (together : Together made first second (perform engine op d) (perform engine op e)) :
    (step engine op e).1 = (step engine op d).1 ∧
      Twin made (step engine op d).2 (step engine op e).2 ∧
      ∃ new, (step engine op d).2.stage.effects = first ++ new ∧
        (step engine op e).2.stage.effects = second ++ new := by
  unfold Dispatcher.step
  generalize perform engine op d = left at together ⊢
  generalize perform engine op e = right at together ⊢
  cases together with
  | ok twin grown grown' => exact ⟨rfl, twin, _, grown, grown'⟩
  | error twin grown grown' => exact ⟨rfl, twin, _, grown, grown'⟩

/-- Whoever is registered in a run has been made before, and no change of the host brings anybody back
from the dead. -/
structure Faithful (made : σ → ObserverId → Prop) (engine : Engine) (ops : List (Op σ))
    (d : Dispatcher σ) : Prop where
  mortal : ∀ op ∈ ops, op.Mortal made
  registers : ∀ s ∈ strides engine ops d, ∀ o, s.op = .addObserver o → made s.before.stage.host o

theorem Faithful.rest {rest : List (Op σ)} (faithful : Faithful made engine (op :: rest) d) :
    Faithful made engine rest (step engine op d).2 :=
  ⟨fun later member => faithful.mortal later (List.mem_cons_of_mem _ member),
    fun s member => faithful.registers s (List.mem_cons_of_mem _ member)⟩

/-- What a run comes to and writes in every operation but popups. -/
def others (engine : Engine) (ops : List (Op σ)) (d : Dispatcher σ) :
    List (Op σ × Except Panic Response × List Effect) :=
  ((strides engine ops d).filter (!·.op.isPopup)).map fun s => (s.op, s.response, s.effects)

theorem others_popup {rest : List (Op σ)} (popup : op.isPopup = true) :
    others engine (op :: rest) d = others engine rest (step engine op d).2 := by
  simp only [others, strides, List.filter_cons, stride, popup]
  rfl

theorem others_other {rest : List (Op σ)} (other : op.isPopup = false) :
    others engine (op :: rest) d =
      (op, (step engine op d).1, effectsSince d (step engine op d).2) ::
        others engine rest (step engine op d).2 := by
  simp only [others, strides, List.filter_cons, stride, other]
  rfl

omit [Host σ] in
theorem Op.exists_of_isPopup (popup : op.isPopup = true) :
    ∃ snapshot url frame, op = .popup snapshot url frame := by
  cases op with
  | popup snapshot url frame => exact ⟨snapshot, url, frame, rfl⟩
  | _ => cases popup

/-- The one run is the other without its popups: they end as twins, the other operations come to the
same in both, and the journal has nothing else but popups. -/
structure Bare (made : σ → ObserverId → Prop) (engine : Engine) (ops : List (Op σ))
    (d e : Dispatcher σ) : Prop where
  twin : Twin made (run engine ops d).2 (run engine (ops.filter (!·.isPopup)) e).2
  same : others engine (ops.filter (!·.isPopup)) e = others engine ops d
  journal : ∃ new, (run engine ops d).2.stage.effects = d.stage.effects ++ new ∧
    new.filter (!·.ofPopup) = ((others engine ops d).flatMap fun x => x.2.2).filter (!·.ofPopup)

theorem Bare.after_popup {rest : List (Op σ)}
    (bare : Bare made engine rest (step engine (.popup snapshot url frame) d).2 e) :
    Bare made engine (.popup snapshot url frame :: rest) d e := by
  obtain ⟨twin, same, later, grown', apart⟩ := bare
  obtain ⟨-, -, first, grown, own⟩ := popup_writes snapshot url frame d
  rw [← step_popup engine] at grown
  have none : first.filter (!·.ofPopup) = [] :=
    List.filter_eq_nil_iff.mpr fun x member => by simp [own x member]
  have less : (Op.popup snapshot url frame :: rest).filter (!·.isPopup) =
      rest.filter (!·.isPopup) := rfl
  constructor
  · rwa [less, run_cons]
  · rw [less, same, others_popup rfl]
  · refine ⟨first ++ later, by rw [run_cons, grown', grown, List.append_assoc], ?_⟩
    rw [others_popup rfl, List.filter_append, none, apart]
    rfl

theorem Bare.after_other {rest : List (Op σ)} (other : op.isPopup = false)
    (together : Together made d.stage.effects e.stage.effects (perform engine op d)
      (perform engine op e))
    (bare : Bare made engine rest (step engine op d).2 (step engine op e).2) :
    Bare made engine (op :: rest) d e := by
  obtain ⟨twin, same, later, last, apart⟩ := bare
  obtain ⟨response, -, first, grown, grown'⟩ := together.step
  have still : (op :: rest).filter (!·.isPopup) = op :: rest.filter (!·.isPopup) :=
    List.filter_cons_of_pos (by simp [other])
  constructor
  · rwa [still, run_cons, run_cons]
  · rw [still, others_other other, others_other other, same, response, effectsSince_eq grown,
      effectsSince_eq grown']
  · refine ⟨first ++ later, by rw [run_cons, last, grown, List.append_assoc], ?_⟩
    rw [others_other other, effectsSince_eq grown, List.filter_append, apart, List.flatMap_cons,
      List.filter_append]

/-- By induction on the operations: twins stay twins over a popup in one run and over any other
operation in both. -/
theorem run_bare (inert : Inert made) (faithful : Faithful made engine ops d)
    (twin : Twin made d e) : Bare made engine ops d e := by
  induction ops generalizing d e with
  | nil => exact ⟨twin, rfl, [], (List.append_nil _).symm, rfl⟩
  | cons op rest ih =>
      cases popup : op.isPopup with
      | true =>
          obtain ⟨snapshot, url, frame, rfl⟩ := Op.exists_of_isPopup popup
          have still := twin.after_popup inert snapshot url frame
          rw [← step_popup engine] at still
          exact (ih faithful.rest still).after_popup
      | false =>
          have here : ∀ o, op = .addObserver o → made d.stage.host o :=
            faithful.registers _ List.mem_cons_self
          have together := perform_together inert.kept engine popup
            (faithful.mortal op List.mem_cons_self) here twin
          obtain ⟨-, twin', -⟩ := together.step
          exact (ih faithful.rest twin').after_other popup together

def written (engine : Engine) (ops : List (Op σ)) (d : Dispatcher σ) : List Effect :=
  effectsSince d (run engine ops d).2

theorem Bare.written (bare : Bare made engine ops d e) :
    (written engine ops d).filter (!·.ofPopup) =
      ((others engine ops d).flatMap fun x => x.2.2).filter (!·.ofPopup) := by
  obtain ⟨new, grown, apart⟩ := bare.journal
  rw [Dispatcher.written, effectsSince_eq grown, apart]

/-- Two runs that differ in popups at most. -/
structure Undisturbed (engine : Engine) (ops ops' : List (Op σ)) (d : Dispatcher σ) : Prop where
  others : others engine ops' d = others engine ops d
  answers : (written engine ops' d).filterMap Effect.answer? =
    (written engine ops d).filterMap Effect.answer?
  ads : adsMatched (written engine ops' d) = adsMatched (written engine ops d)
  pages : pagesAllowed (written engine ops' d) = pagesAllowed (written engine ops d)
  heard : ∀ o, (heard o (written engine ops' d)).filter (!·.ofPopup) =
    (heard o (written engine ops d)).filter (!·.ofPopup)
  queue : (run engine ops' d).2.queue = (run engine ops d).2.queue
  pending : (run engine ops' d).2.pending = (run engine ops d).2.pending
  host : (run engine ops' d).2.stage.host = (run engine ops d).2.stage.host

theorem undisturbed (inert : Inert made) (sound : d.Sound made)
    (faithful : Faithful made engine ops d) (faithful' : Faithful made engine ops' d)
    (same : ops'.filter (!·.isPopup) = ops.filter (!·.isPopup)) :
    Undisturbed engine ops ops' d := by
  have bare := run_bare inert faithful (Twin.refl sound)
  have bare' := run_bare inert faithful' (Twin.refl sound)
  have twin' := bare'.twin
  have others := bare'.same
  rw [same] at twin' others
  have twins := bare.twin.trans twin'.symm
  rw [bare.same] at others
  have apart : (written engine ops' d).filter (!·.ofPopup) =
      (written engine ops d).filter (!·.ofPopup) := by
    rw [bare'.written, bare.written, others]
  have unanswered : ∀ x : Effect, x.ofPopup → x.answer? = none := by
    intro x popup
    cases x with
    | callback call a => cases popup
    | _ => rfl
  have reported {α : Type} {sort : Notification → Option α}
      (own : ∀ event, sort (.popupMatched event) = none) :
      reportsOf sort (written engine ops' d) = reportsOf sort (written engine ops d) := by
    rw [← reportsOf_apart own, apart, reportsOf_apart own]
  refine ⟨others.symm, ?_, reported fun _ => rfl, reported fun _ => rfl, ?_, twins.queue,
    twins.pending, twins.host⟩
  · rw [← filterMap_apart unanswered, apart, filterMap_apart unanswered]
  · intro o
    rw [← heard_apart, apart, heard_apart]

/-- A popup is ruled on at once, as a request would be, and no job knows of it.  If the host takes no
part in popups, nothing else in a run depends on them. -/
theorem popups_apart (d : Dispatcher σ) :
    (∀ snapshot url frame r e, popup snapshot url frame d = .ok r e →
      Interlude snapshot url frame d r e) ∧
    ∀ made engine ops ops', Inert made → d.Sound made → Faithful made engine ops d →
      Faithful made engine ops' d → ops'.filter (!·.isPopup) = ops.filter (!·.isPopup) →
      Undisturbed engine ops ops' d :=
  ⟨fun _ _ _ _ _ fine => interlude fine,
    fun _ _ _ _ inert sound faithful faithful' same =>
      undisturbed inert sound faithful faithful' same⟩

/-- A register that blocks what it is asked in line, and keeps what callbacks are told.  Observers are
made one after the other, and live on. -/
structure Turnstile where
  frames : List LiveFrame
  observers : Nat := 0
  answers : List Answer := []

instance : Host Turnstile where
  resolve frame := do return (← get).frames.find? fun live => live.id = frame
  ancestorChain live := return [live.url]
  findSiteKey _ := return none
  classifyInline _ := return .blocked ⟨"https://inline.example/"⟩
  receive _ a := modify fun t => { t with answers := t.answers ++ [a] }
  observe _ _ := return ()
  owned t o := o < t.observers

/-- A request is allowed, with or without popups that are blocked meanwhile, and an observer that is
made between the two hears of it. -/
theorem blocked_popups_apart :
    let live : LiveFrame := ⟨⟨1, 2⟩, ⟨"https://a.example/"⟩⟩
    let url : Url := ⟨"https://b.example/"⟩
    let engine : Engine := ⟨fun _ => .ok (.allowed ⟨"https://list.example/"⟩)⟩
    let start : Dispatcher Turnstile :=
      { queue := { free := 1 }, stage := { host := { frames := [live] } } }
    let plain : List (Op Turnstile) :=
      [.request [] url .other live.id 7, .changeHost fun t => { t with observers := t.observers + 1 },
        .addObserver 0, .start 0, .finish 0, .next]
    let busy : List (Op Turnstile) :=
      [.popup [] url live.id, .request [] url .other live.id 7,
        .changeHost fun t => { t with observers := t.observers + 1 }, .popup [] url live.id,
        .addObserver 0, .start 0, .popup [] url ⟨5, 5⟩, .finish 0, .next, .popup [] url live.id]
    (∃ e, popup [] url live.id start = .ok .blockRule e ∧
      Interlude [] url live.id start .blockRule e) ∧
    Undisturbed engine plain busy start ∧
    (run engine busy start).2.stage.host.answers = [.result .allowRule] ∧
    (heard 0 (run engine busy start).2.stage.effects).length = 2 := by
  intro live url engine start plain busy
  let made (t : Turnstile) (o : ObserverId) : Prop := o < t.observers
  have inert : Inert made :=
    ⟨⟨fun _ _ => rfl, fun _ _ => rfl, fun _ _ => rfl, fun _ _ => rfl⟩, fun _ _ _ => rfl,
      fun _ _ _ _ there => ⟨there, id⟩, fun _ _ _ _ there => ⟨there, id⟩⟩
  have makes (t : Turnstile) : Mortal made t { t with observers := t.observers + 1 } :=
    fun o there => ⟨Nat.lt_succ_of_lt there, fun _ => decide_eq_true there⟩
  have registers {ops : List (Op Turnstile)}
      (all : (strides engine ops start).all fun s => match s.op with
        | .addObserver o => o < s.before.stage.host.observers
        | _ => true) :
      ∀ s ∈ strides engine ops start, ∀ o, s.op = .addObserver o → made s.before.stage.host o := by
    intro s member o adds
    have here := List.all_eq_true.mp all s member
    rw [adds] at here
    exact of_decide_eq_true here
  have faithful : Faithful made engine plain start := by
    refine ⟨?_, registers (by decide +kernel)⟩
    rintro _ member change rfl
    simp only [plain, List.mem_cons, reduceCtorEq, Op.changeHost.injEq, false_or, or_false,
      List.not_mem_nil] at member
    exact member ▸ makes
  have faithful' : Faithful made engine busy start := by
    refine ⟨?_, registers (by decide +kernel)⟩
    rintro _ member change rfl
    simp only [busy, List.mem_cons, reduceCtorEq, Op.changeHost.injEq, false_or, or_false,
      List.not_mem_nil] at member
    exact member ▸ makes
  exact ⟨⟨_, rfl, (popups_apart start).1 _ _ _ _ _ rfl⟩,
    (popups_apart start).2 made engine plain busy inert (by simp [Sound, start]) faithful faithful'
      rfl, by decide +kernel, by decide +kernel⟩

end Dispatcher

end FilterDispatch
