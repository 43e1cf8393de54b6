import FilterDispatch.Proofs.Replay.Misrouted
import FilterDispatch.Proofs.Scenario.Frames

/-!
What the records of a replay tell of frames that die.  The look-up at which a resource is dispatched
comes before that at which it is reported; a document has none at its dispatch, so its frame may still
be found when the document is reported.
-/

namespace FilterDispatch.Replay

open Scenario (DeclaredFrame Event FrameTable Table)

theorem mem_evaluateFrom {tables : List Table} {r : Record} {i : Nat} {events : List Event}
    {t : FrameTable} (recorded : r ∈ evaluateFrom tables i events t) :
    ∃ past later, events = past ++ r.event :: later ∧ r.index = i + past.length ∧
      r.notifications =
        (r.event.evaluate tables (Event.tableAfter tables past t)).1.notifications := by
  induction events generalizing i t with
  | nil => cases recorded
  | cons e rest ih =>
      obtain rfl | behind := List.mem_cons.mp recorded
      · exact ⟨[], rest, rfl, rfl, rfl⟩
      · obtain ⟨past, later, split, index, told⟩ := ih behind
        have place : r.index = i + (e :: past).length := by
          rw [index, List.length_cons]
          omega
        exact ⟨e :: past, later, congrArg (e :: ·) split, place, told⟩

/-- A frame that dies is told of once at most, and only by an event whose report is the first to look
it up: a document or a popup. -/
theorem expected_told {s : Scenario} {r : Record} {f : DeclaredFrame}
    (recorded : r ∈ (expected s).records)
    (declared : s.frames.find? (fun f => f.live.id = r.event.frame) = some f)
    (dies : f.diesAfterDispatch = true) :
    r.notifications = if (s.events.take r.index).any (·.looksUp s.tables r.event.frame) then []
      else (r.event.notice? s.tables f).toList := by
  obtain ⟨past, later, split, index, told⟩ := mem_evaluateFrom recorded
  have before : s.events.take r.index = past := by
    rw [split, index, Nat.zero_add, List.take_left]
  have there : s.frameTable.find? r.event.frame = some { frame := f } := by
    rw [Scenario.frameTable, FrameTable.find?_ofDeclared, declared]
    rfl
  rw [told, before]
  cases looked : past.any (·.looksUp s.tables r.event.frame) with
  | true =>
      have dying : s.frameTable.Dies r.event.frame := by
        intro g found
        cases there.symm.trans found
        exact dies
      exact Event.evaluate_spent (Event.tableAfter_looked dying looked)
  | false =>
      exact Event.evaluate_fresh ((Event.tableAfter_unlooked past _ looked).trans there) dies

/-- Whatever order the moves fall in, a replay that succeeds tells nothing of a resource whose frame
dies, for it was looked up when the resource was dispatched.  A document or a popup is told of if no
event before it looked the frame up. -/
theorem dying_frame_told {s : Scenario} {c : Config} {report : Report}
    (replayed : replay s c = .ok report) :
    (∃ start, Machine.start s c = .ok start ∧
      ∀ moves m, Machine.run? (Machine.engine s) moves start = some m →
        match m.outcome? with
        | some outcome => outcome = some report
        | none => ∃ move next, m.step? (Machine.engine s) move = some next) ∧
    ∀ r ∈ report.records, ∀ f, s.frames.find? (fun f => f.live.id = r.event.frame) = some f →
      f.diesAfterDispatch = true →
      (r.event.kind ∈ [.request, .socket, .response] → r.notifications = []) ∧
      r.notifications = if (s.events.take r.index).any (·.looksUp s.tables r.event.frame) then []
        else (r.event.notice? s.tables f).toList := by
  obtain ⟨-, permits, places, fits, rfl⟩ := replay_ok replayed
  refine ⟨?_, fun r recorded f declared dies => ?_⟩
  · obtain ⟨start, P, started, heads, here⟩ := start_heads (s := s) permits places
    refine ⟨start, started, fun moves m ran => ?_⟩
    obtain ⟨k, there, -⟩ := heads.run here ran
    obtain unfinished | done := heads.ends there
    · rw [unfinished]
      exact heads.can_move there unfinished
    · rw [done, if_pos fits]
  · have told := expected_told recorded declared dies
    refine ⟨fun resource => ?_, told⟩
    have nothing : r.event.notice? s.tables f = none := by
      cases event : r.event <;> simp [event, Event.kind] at resource <;> rfl
    rw [told, nothing]
    exact ite_self _

/-- A request of a frame that dies is blocked, and nobody hears of it. -/
theorem dying_request_untold :
    let id : FrameId := ⟨1, 1⟩
    let dies : DeclaredFrame := { live := ⟨id, ⟨"https://a.example/"⟩⟩, diesAfterDispatch := true }
    let s : Scenario :=
      { frames := [dies]
        tables := [{ subscription := ⟨"https://list.example/"⟩, block := ["ads"] }]
        events := [.request ⟨"https://b.example/ads.js"⟩ .script id] }
    ∃ report, replay s {} = .ok report ∧
      ∀ r ∈ report.records, r.reply = .answer (.result .blockRule) ∧ r.notifications = [] := by
  intro id dies s
  have replayed : replay s {} = .ok (expected s) :=
    (replay_eq rfl (by decide) (by decide)).trans (if_pos (by decide +kernel))
  have all : ∀ r ∈ (expected s).records,
      r.event.kind = .request ∧ r.event.frame = id ∧ r.reply = .answer (.result .blockRule) := by
    decide +kernel
  refine ⟨expected s, replayed, fun r recorded => ?_⟩
  obtain ⟨request, own, blocked⟩ := all r recorded
  have declared : s.frames.find? (fun f => f.live.id = r.event.frame) = some dies := by
    rw [own]
    rfl
  exact ⟨blocked, ((dying_frame_told replayed).2 r recorded dies declared rfl).1 (by simp [request])⟩

/-- A document of a frame that dies is told of all the same: its report is the first to look the frame
up. -/
theorem dying_document_told :
    let page : Url := ⟨"https://a.example/"⟩
    let list : Url := ⟨"https://list.example/"⟩
    let dies : LiveFrame := ⟨⟨1, 1⟩, page⟩
    let s : Scenario :=
      { frames := [{ live := dies, diesAfterDispatch := true }]
        tables := [{ subscription := list, documentHosts := ["a.example"] }]
        events := [.document page dies.id] }
    replay s {} = .ok
      { records := [⟨0, .document page dies.id, .done, [.pageAllowed ⟨page, dies, list⟩]⟩]
        stats := { collecting := true } } := by
  intro page list dies s
  have replayed : replay s {} = .ok (expected s) :=
    (replay_eq rfl (by decide) (by decide)).trans (if_pos (by decide +kernel))
  rw [replayed]
  exact congrArg Except.ok (by decide +kernel)

end FilterDispatch.Replay
