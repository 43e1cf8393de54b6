import FilterDispatch.Json.Printer
import FilterDispatch.Replay.Machine

/-! How the report of a replay is written: a line for each outcome, behind it a line for each of its
notifications, and the counts at the end. -/

namespace FilterDispatch.Replay

def urlJson (u : Url) : Json :=
  .text u.text

def urlOrNull : Option Url → Json
  | some u => urlJson u
  | none => .null

def notificationJson : Notification → Json
  | .adMatched e =>
    .object
      [("notification", .text "ad_matched"), ("url", urlJson e.url),
        ("result", .text e.result.text), ("content_type", .text e.contentType.text),
        ("ancestors", .array (e.ancestors.map urlJson)), ("frame", .text e.frame.id.text),
        ("subscription", urlJson e.subscription)]
  | .pageAllowed e =>
    .object
      [("notification", .text "page_allowed"), ("url", urlJson e.url),
        ("frame", .text e.frame.id.text), ("subscription", urlJson e.subscription)]
  | .popupMatched e =>
    .object
      [("notification", .text "popup_matched"), ("url", urlJson e.url),
        ("result", .text e.result.text), ("opener", urlOrNull e.opener),
        ("frame", .text e.frame.id.text), ("subscription", urlJson e.subscription)]

/-- A call that only had to be sent has let its document pass. -/
def replyField : Reply → String × Json
  | .answer (.result r) => ("result", .text r.text)
  | .answer (.rewrite target) => ("rewrite", urlOrNull target)
  | .done => ("result", .text "passed_through")

def contentTypeField (e : Scenario.Event) : List (String × Json) :=
  match e.contentType? with
  | some c => [("content_type", .text c.text)]
  | none => []

def Record.outcomeJson (r : Record) : Json :=
  .object
    (contentTypeField r.event ++
      [("event", .nat r.index), ("frame", .text r.event.frame.text),
        ("kind", .text r.event.kind.text), replyField r.reply, ("url", urlJson r.event.url)])

def countsJson (counts : Counts) : Json :=
  .object (counts.map fun e => (e.1.text, .nat e.2))

def statsJson (s : SessionStats) : Json :=
  .object [("allowed", countsJson s.allowed), ("blocked", countsJson s.blocked)]

/-- The counts as the last line has them. -/
def statsLine (s : SessionStats) : String :=
  (Json.object [("stats", statsJson s)]).compact

def Record.lines (r : Record) : List String :=
  r.outcomeJson.compact :: r.notifications.map fun n => (notificationJson n).compact

def Report.lines (r : Report) : List String :=
  r.records.flatMap Record.lines ++ [statsLine r.stats]

end FilterDispatch.Replay
