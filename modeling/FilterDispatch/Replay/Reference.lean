import FilterDispatch.Replay.Machine

/-!
What a replay ought to report: the events are evaluated one after the other, each to its end, and
all that one leaves to the next is which frames are still there.
-/

namespace FilterDispatch

namespace Scenario

/-- A table that allows goes before all that block; among those the first decides. -/
def verdict (tables : List Table) (url : Url) : Classification :=
  match tables.find? (·.allows url) with
  | some t => .allowed t.subscription
  | none =>
    match tables.find? (·.blocks url) with
    | some t => .blocked t.subscription
    | none => .ignored

def rewriteTarget (tables : List Table) (url : Url) : Option Url :=
  tables.findSome? (·.rewriteTarget url)

/-- The subscription of the last table if every table allows the document. -/
def documentSubscription (tables : List Table) (url : Url) : Option Url :=
  if tables.all (·.allowsDocument url) then tables.getLast?.map (·.subscription) else none

/-- What is told if the frame is found now. -/
def FrameTable.tell (frame : FrameId) (event : LiveFrame → Notification) (t : FrameTable) :
    List Notification × FrameTable :=
  match t.resolve frame with
  | (none, u) => ([], u)
  | (some live, u) => ([event live], u)

/-- What an event comes to: the reply to its caller and what observers are told. -/
structure Outcome where
  reply : Reply
  notifications : List Notification := []
  deriving DecidableEq, Repr

/-- The frame is looked up when the resource is dispatched and, if a filter matched, once more when
that is reported. -/
def evaluateResource (tables : List Table) (url : Url) (contentType : ContentType) (frame : FrameId)
    (t : FrameTable) : Outcome × FrameTable :=
  match t.resolve frame with
  | (none, u) => ({ reply := .answer (.result .noRule) }, u)
  | (some live, u) =>
    let c := verdict tables url
    let reply := .answer (.result c.result)
    match c.subscription? with
    | none => ({ reply }, u)
    | some subscription =>
      let ancestors := u.ancestors live.id
      let (notifications, v) := u.tell live.id fun frame =>
        .adMatched { url, result := c.result, ancestors, contentType, frame, subscription }
      ({ reply, notifications }, v)

def evaluatePopup (tables : List Table) (url : Url) (frame : FrameId) (t : FrameTable) :
    Outcome × FrameTable :=
  match t.resolve frame with
  | (none, u) => ({ reply := .answer (.result .noRule) }, u)
  | (some live, u) =>
    let c := verdict tables url
    let reply := .answer (.result c.result)
    match c.subscription? with
    | none => ({ reply }, u)
    | some subscription =>
      let opener := (u.ancestors live.id).head?
      let event := { url, result := c.result, opener, frame := live, subscription }
      ({ reply, notifications := [.popupMatched event] }, u)

/-- A document passes through in any case; its frame is looked up only to report it. -/
def evaluateDocument (tables : List Table) (url : Url) (frame : FrameId) (t : FrameTable) :
    Outcome × FrameTable :=
  match documentSubscription tables url with
  | none => ({ reply := .done }, t)
  | some subscription =>
    let (notifications, u) := t.tell frame fun frame => .pageAllowed { url, frame, subscription }
    ({ reply := .done, notifications }, u)

def evaluateRewrite (tables : List Table) (url : Url) (frame : FrameId) (t : FrameTable) :
    Outcome × FrameTable :=
  match t.resolve frame with
  | (none, u) => ({ reply := .answer (.rewrite none) }, u)
  | (some _, u) => ({ reply := .answer (.rewrite (rewriteTarget tables url)) }, u)

namespace Event

def evaluate (tables : List Table) : Event → FrameTable → Outcome × FrameTable
  | .request url contentType frame => evaluateResource tables url contentType frame
  | .socket url frame => evaluateResource tables url .websocket frame
  | .response url contentType frame _ => evaluateResource tables url contentType frame
  | .popup url frame => evaluatePopup tables url frame
  | .document url frame => evaluateDocument tables url frame
  | .rewrite url frame => evaluateRewrite tables url frame

/-- Sockets have a call of their own, and nothing else goes by it. -/
def Fits : Event → Prop
  | .request url contentType _ => contentType ≠ .websocket ∧ url.isWebSocket = false
  | .socket url _ => url.isWebSocket = true
  | .response .. | .popup .. | .document .. | .rewrite .. => True

instance : (e : Event) → Decidable e.Fits
  | .request _ _ _ => inferInstanceAs (Decidable (_ ∧ _))
  | .socket _ _ => inferInstanceAs (Decidable (_ = _))
  | .response .. | .popup .. | .document .. | .rewrite .. => inferInstanceAs (Decidable True)

end Event

end Scenario

namespace Replay

open Scenario (Event FrameTable Table)

/-- The records of events from a position on. -/
def evaluateFrom (tables : List Table) : Nat → List Event → FrameTable → List Record
  | _, [], _ => []
  | i, e :: rest, t =>
    let (outcome, u) := e.evaluate tables t
    ⟨i, e, outcome.reply, outcome.notifications⟩ :: evaluateFrom tables (i + 1) rest u

/-- The report of a replay, one event at a time. -/
def expected (s : Scenario) : Report :=
  let records := evaluateFrom s.tables 0 s.events s.frameTable
  ⟨records, (records.flatMap (·.notifications)).foldl SessionStats.observe (SessionStats.start {})⟩

end Replay

end FilterDispatch
