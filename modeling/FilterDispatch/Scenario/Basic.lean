import FilterDispatch.Scenario.File
import FilterDispatch.Scenario.Frames
import FilterDispatch.Scenario.Table
import FilterDispatch.Url.Parse

/-! Scenarios: frames, site keys, collections and events, and how they are made from a file. -/

namespace FilterDispatch

namespace Scenario

inductive Event
  | request (url : Url) (contentType : ContentType) (frame : FrameId)
  | socket (url : Url) (frame : FrameId)
  | response (url : Url) (contentType : ContentType) (frame : FrameId) (headers : Headers)
  | popup (url : Url) (frame : FrameId)
  | document (url : Url) (frame : FrameId)
  | rewrite (url : Url) (frame : FrameId)
  deriving DecidableEq, Repr

namespace Event

def kind : Event → EventKind
  | .request .. => .request
  | .socket .. => .socket
  | .response .. => .response
  | .popup .. => .popup
  | .document .. => .document
  | .rewrite .. => .rewrite

def url : Event → Url
  | .request u .. | .socket u _ | .response u .. | .popup u _ | .document u _ | .rewrite u _ => u

def frame : Event → FrameId
  | .request _ _ f | .socket _ f | .response _ _ f _ | .popup _ f | .document _ f | .rewrite _ f =>
    f

def contentType? : Event → Option ContentType
  | .request _ c _ | .response _ c _ _ => some c
  | _ => none

end Event

/-- What can be wrong with a scenario. -/
inductive Fault
  | json (fault : Json.Fault)
  | url (given : String) (fault : Url.Fault)
  | frameId (fault : BadFrameId)
  | duplicateFrame (id : FrameId)

def Fault.message : Fault → String
  | .json fault => "Invalid scenario JSON: " ++ fault.message
  | .url given fault => "Invalid URL '" ++ given ++ "': " ++ fault.message
  | .frameId fault => fault.message
  | .duplicateFrame id => "Frame " ++ id.text ++ " declared twice"

end Scenario

open Scenario in
structure Scenario where
  frames : List DeclaredFrame := []
  siteKeys : List (Url × SiteKey) := []
  tables : List Table := []
  events : List Event := []
  deriving DecidableEq, Repr

namespace Scenario

def readUrl (s : String) : Except Fault Url :=
  (Url.parse s).mapError (.url s)

def readFrameId (s : String) : Except Fault FrameId :=
  (FrameId.parse s).mapError .frameId

/-- Reads a declared frame; an id may be declared once. -/
def readFrame (d : FrameDecl) (earlier : List FrameId) : Except Fault DeclaredFrame := do
  let id ← readFrameId d.id
  if id ∈ earlier then throw (.duplicateFrame id)
  let url ← readUrl d.url
  let ancestors ← d.ancestors.mapM readUrl
  return { live := ⟨id, url⟩, ancestors, diesAfterDispatch := d.diesAfterDispatch }

def readFrames : List FrameDecl → List FrameId → Except Fault (List DeclaredFrame)
  | [], _ => .ok []
  | d :: rest, earlier => do
    let frame ← readFrame d earlier
    return frame :: (← readFrames rest (frame.live.id :: earlier))

def readSiteKey (d : SiteKeyDecl) : Except Fault (Url × SiteKey) := do
  return (← readUrl d.page, ⟨d.key⟩)

def readRewrite (d : RewriteDecl) : Except Fault (String × Url) := do
  return (d.pattern, ← readUrl d.target)

def readTable (d : CollectionDecl) : Except Fault Table := do
  let rewrites ← d.rewrite.mapM readRewrite
  let subscription ← readUrl d.subscription
  let documentHosts := d.documentAllowHosts
  return { subscription, block := d.block, allow := d.allow, rewrites, documentHosts }

def readEvent : EventDecl → Except Fault Event
  | .request url contentType frame => do
    return .request (← readUrl url) (.ofToken contentType) (← readFrameId frame)
  | .socket url frame => do return .socket (← readUrl url) (← readFrameId frame)
  | .response url contentType frame headers => do
    return .response (← readUrl url) (.ofToken contentType) (← readFrameId frame) (.ofList headers)
  | .popup url frame => do return .popup (← readUrl url) (← readFrameId frame)
  | .document url frame => do return .document (← readUrl url) (← readFrameId frame)
  | .rewrite url frame => do return .rewrite (← readUrl url) (← readFrameId frame)

/-- The first fault wins: frames, site keys, collections, events. -/
def ofFile (f : File) : Except Fault Scenario := do
  let frames ← readFrames f.frames []
  let siteKeys ← f.siteKeys.mapM readSiteKey
  let tables ← f.collections.mapM readTable
  let events ← f.events.mapM readEvent
  return { frames, siteKeys, tables, events }

def parse (s : String) : Except Fault Scenario := do
  ofFile (← (File.parse s).mapError .json)

/-- The tables with ids from the given one on; other ids make other collections. -/
def declared (s : Scenario) (firstId : Nat) : List DeclaredTable :=
  s.tables.mapIdx fun i table => ⟨firstId + i, table⟩

def ownTables (s : Scenario) : List DeclaredTable :=
  s.declared 0

def snapshotFrom (s : Scenario) (firstId : Nat) : Snapshot :=
  (s.declared firstId).map DeclaredTable.collection

/-- All collections in the order of their declaration. -/
def snapshot (s : Scenario) : Snapshot :=
  s.snapshotFrom 0

def frameTable (s : Scenario) : FrameTable :=
  .ofDeclared s.frames

/-- The first of the pages that has a key, with the key that was declared first for it. -/
def siteKeyIn (keys : List (Url × SiteKey)) : List Url → Option (Url × SiteKey)
  | [] => none
  | u :: rest =>
    match keys.lookup u with
    | some key => some (u, key)
    | none => siteKeyIn keys rest

end Scenario

end FilterDispatch
