import FilterDispatch.Json.Record

/-! The JSON form of a scenario, before its addresses and frame ids are read. -/

namespace FilterDispatch.Scenario

open Json (Cause)
open Json.Reader

structure FrameDecl where
  id : String
  url : String
  /-- Nearest parent first. -/
  ancestors : List String := []
  diesAfterDispatch : Bool := false
  deriving DecidableEq, Repr

structure SiteKeyDecl where
  page : String
  key : String
  deriving DecidableEq, Repr

structure RewriteDecl where
  pattern : String
  target : String
  deriving DecidableEq, Repr

structure CollectionDecl where
  subscription : String
  block : List String := []
  allow : List String := []
  rewrite : List RewriteDecl := []
  documentAllowHosts : List String := []
  deriving DecidableEq, Repr

inductive EventDecl
  | request (url contentType frame : String)
  | socket (url frame : String)
  | response (url contentType frame : String) (headers : List (String × String))
  | popup (url frame : String)
  | document (url frame : String)
  | rewrite (url frame : String)
  deriving DecidableEq, Repr

structure File where
  frames : List FrameDecl := []
  siteKeys : List SiteKeyDecl := []
  collections : List CollectionDecl := []
  events : List EventDecl := []
  deriving DecidableEq, Repr

def textsValue : Json.Reader (List String) :=
  listValue textValue

structure FrameDraft where
  id : Option String := none
  url : Option String := none
  ancestors : Option (List String) := none
  dies : Option Bool := none

def frameFields : List String :=
  ["id", "url", "ancestors", "dies_after_dispatch"]

def FrameDraft.field (name : String) (d : FrameDraft) : Json.Reader FrameDraft :=
  match name with
  | "id" => return { d with id := ← fieldOnce name d.id textValue }
  | "url" => return { d with url := ← fieldOnce name d.url textValue }
  | "ancestors" => return { d with ancestors := ← fieldOnce name d.ancestors textsValue }
  | "dies_after_dispatch" => return { d with dies := ← fieldOnce name d.dies boolValue }
  | _ => failWithin (.unknownField name frameFields)

def frameNamed : Json.Reader FrameDecl := do
  let d ← fields FrameDraft.field {}
  let id ← required "id" d.id
  let url ← required "url" d.url
  return ⟨id, url, d.ancestors.getD [], d.dies.getD false⟩

def frameListed : Json.Reader FrameDecl := do
  let wanted := "struct FrameSpec with 4 elements"
  let id ← listed 0 wanted textValue
  let url ← listed 1 wanted textValue
  match ← listed? 2 textsValue with
  | none => return ⟨id, url, [], false⟩
  | some ancestors =>
    let dies ← listed? 3 boolValue
    return ⟨id, url, ancestors, dies.getD false⟩

def frameValue : Json.Reader FrameDecl :=
  recordValue "struct FrameSpec" frameNamed frameListed

/-- A record of two texts. -/
def textPairNamed (first second : String) : Json.Reader (String × String) := do
  let field (name : String) (d : Option String × Option String) :
      Json.Reader (Option String × Option String) := do
    if name = first then return (← fieldOnce name d.1 textValue, d.2)
    else if name = second then return (d.1, ← fieldOnce name d.2 textValue)
    else failWithin (.unknownField name [first, second])
  let d ← fields field (none, none)
  return (← required first d.1, ← required second d.2)

def textPairListed (wanted : String) : Json.Reader (String × String) := do
  let a ← listed 0 wanted textValue
  return (a, ← listed 1 wanted textValue)

def textPairValue (wanted first second : String) : Json.Reader (String × String) :=
  recordValue wanted (textPairNamed first second) (textPairListed (wanted ++ " with 2 elements"))

def siteKeyValue : Json.Reader SiteKeyDecl := do
  let (page, key) ← textPairValue "struct SiteKeySpec" "page" "key"
  return ⟨page, key⟩

def rewriteValue : Json.Reader RewriteDecl := do
  let (pattern, target) ← textPairValue "struct RewriteSpec" "pattern" "target"
  return ⟨pattern, target⟩

structure CollectionDraft where
  subscription : Option String := none
  block : Option (List String) := none
  allow : Option (List String) := none
  rewrite : Option (List RewriteDecl) := none
  documentAllowHosts : Option (List String) := none

def collectionFields : List String :=
  ["subscription", "block", "allow", "rewrite", "document_allow_hosts"]

def CollectionDraft.field (name : String) (d : CollectionDraft) : Json.Reader CollectionDraft :=
  match name with
  | "subscription" => return { d with subscription := ← fieldOnce name d.subscription textValue }
  | "block" => return { d with block := ← fieldOnce name d.block textsValue }
  | "allow" => return { d with allow := ← fieldOnce name d.allow textsValue }
  | "rewrite" => return { d with rewrite := ← fieldOnce name d.rewrite (listValue rewriteValue) }
  | "document_allow_hosts" =>
    return { d with documentAllowHosts := ← fieldOnce name d.documentAllowHosts textsValue }
  | _ => failWithin (.unknownField name collectionFields)

def collectionNamed : Json.Reader CollectionDecl := do
  let d ← fields CollectionDraft.field {}
  let subscription ← required "subscription" d.subscription
  return ⟨subscription, d.block.getD [], d.allow.getD [], d.rewrite.getD [],
    d.documentAllowHosts.getD []⟩

/-- A field of a listed record that may be missing, as may then all after it. -/
def listedOr {α : Type} (reached : Bool) (position : Nat) (read : Json.Reader (List α)) :
    Json.Reader (Bool × List α) := do
  if !reached then return (false, [])
  match ← listed? position read with
  | some a => return (true, a)
  | none => return (false, [])

def collectionListed : Json.Reader CollectionDecl := do
  let subscription ← listed 0 "struct CollectionSpec with 5 elements" textValue
  let (more, block) ← listedOr true 1 textsValue
  let (more, allow) ← listedOr more 2 textsValue
  let (more, rewrite) ← listedOr more 3 (listValue rewriteValue)
  let (_, hosts) ← listedOr more 4 textsValue
  return ⟨subscription, block, allow, rewrite, hosts⟩

def collectionValue : Json.Reader CollectionDecl :=
  recordValue "struct CollectionSpec" collectionNamed collectionListed

/-- The kind of an event says which fields the others are, so all are gathered first. -/
inductive EventKind
  | request | socket | response | popup | document | rewrite
  deriving DecidableEq, Repr

def EventKind.text : EventKind → String
  | .request => "request"
  | .socket => "socket"
  | .response => "response"
  | .popup => "popup"
  | .document => "document"
  | .rewrite => "rewrite"

def EventKind.all : List EventKind :=
  [.request, .socket, .response, .popup, .document, .rewrite]

def EventKind.ofText? (s : String) : Option EventKind :=
  EventKind.all.find? fun k => k.text == s

def EventKind.fieldNames : EventKind → List String
  | .request => ["url", "content_type", "frame"]
  | .response => ["url", "content_type", "frame", "headers"]
  | .socket | .popup | .document | .rewrite => ["url", "frame"]

def EventKind.listWanted : EventKind → String
  | .request => "struct variant EventSpec::Request with 3 elements"
  | .socket => "struct variant EventSpec::Socket with 2 elements"
  | .response => "struct variant EventSpec::Response with 4 elements"
  | .popup => "struct variant EventSpec::Popup with 2 elements"
  | .document => "struct variant EventSpec::Document with 2 elements"
  | .rewrite => "struct variant EventSpec::Rewrite with 2 elements"

structure EventDraft where
  url : Option String := none
  contentType : Option String := none
  frame : Option String := none
  headers : Option (List (String × String)) := none

def once {α : Type} (name : String) (before : Option α) (read : Except Cause α) :
    Except Cause (Option α) :=
  match before with
  | some _ => .error (.duplicateField name)
  | none => some <$> read

/-- Takes a field of an event of the given kind. -/
def EventDraft.field (kind : EventKind) (d : EventDraft) (name : String) (j : Json) :
    Except Cause EventDraft :=
  if name ∈ kind.fieldNames then
    match name with
    | "url" => return { d with url := ← once name d.url j.asText }
    | "content_type" => return { d with contentType := ← once name d.contentType j.asText }
    | "frame" => return { d with frame := ← once name d.frame j.asText }
    | _ =>
      let pair := Json.asPair Json.asText Json.asText
      return { d with headers := ← once name d.headers (j.asList pair) }
  else .error (.unknownField name kind.fieldNames)

def need {α : Type} (name : String) : Option α → Except Cause α
  | some a => .ok a
  | none => .error (.missingField name)

def EventDraft.finish (kind : EventKind) (d : EventDraft) : Except Cause EventDecl := do
  let url ← need "url" d.url
  match kind with
  | .request => do
    let contentType ← need "content_type" d.contentType
    return .request url contentType (← need "frame" d.frame)
  | .response => do
    let contentType ← need "content_type" d.contentType
    return .response url contentType (← need "frame" d.frame) (d.headers.getD [])
  | .socket => return .socket url (← need "frame" d.frame)
  | .popup => return .popup url (← need "frame" d.frame)
  | .document => return .document url (← need "frame" d.frame)
  | .rewrite => return .rewrite url (← need "frame" d.frame)

def takeFields (kind : EventKind) : List (String × Json) → EventDraft → Except Cause EventDraft
  | [], d => .ok d
  | (name, j) :: rest, d =>
    match d.field kind name j with
    | .error e => .error e
    | .ok d => takeFields kind rest d

/-- Gives the items of a list to the fields in order; only headers may be missing. -/
def takeItems (kind : EventKind) :
    Nat → List String → List Json → EventDraft → Except Cause EventDraft
  | position, [], extra, d =>
    if extra.isEmpty then .ok d
    else .error (.wrongLength (position + extra.length) (Json.countWanted position))
  | position, name :: names, [], d =>
    if name = "headers" ∧ names = [] then .ok d
    else .error (.wrongLength position kind.listWanted)
  | position, name :: names, j :: js, d =>
    match d.field kind name j with
    | .error e => .error e
    | .ok d => takeItems kind (position + 1) names js d

def EventDecl.ofFields (kind : EventKind) (fs : List (String × Json)) : Except Cause EventDecl := do
  (← takeFields kind fs {}).finish kind

def EventDecl.ofItems (kind : EventKind) (js : List Json) : Except Cause EventDecl := do
  (← takeItems kind 0 kind.fieldNames js {}).finish kind

def kindValue : Json.Reader EventKind := placed do
  if (← valueStart) = '"' then
    let s ← text
    match EventKind.ofText? s with
    | some kind => return kind
    | none => failWithin (.unknownVariant s (EventKind.all.map EventKind.text))
  else wrongType "variant identifier"

/-- What may still be nested in a field of an event. -/
def eventDepth : Nat := depthLimit - 4

/-- The kind, if it was met, and the other fields, the newest first. -/
def gatherField (name : String) (d : Option EventKind × List (String × Json)) :
    Json.Reader (Option EventKind × List (String × Json)) := do
  if name = "kind" then return (← fieldOnce name d.1 kindValue, d.2)
  else do
    colon
    return (d.1, (name, ← Json.Reader.value eventDepth) :: d.2)

def eventFields : Json.Reader (Except Cause EventDecl) := do
  let (kind, fs) ← fields gatherField (none, [])
  return EventDecl.ofFields (← required "kind" kind) fs.reverse

def eventItems : Json.Reader (Except Cause EventDecl) := do
  match ← listed? 0 kindValue with
  | none => failWithin (.missingField "kind")
  | some kind =>
    let js ← itemsFrom (Json.Reader.value eventDepth) ((← remaining) + 1) false []
    return EventDecl.ofItems kind js

def eventParts : Json.Reader (Except Cause EventDecl) := placed do
  match ← valueStart with
  | '\x7b' => do
    skip
    bracketed eventFields closeObject
  | '[' => do
    skip
    bracketed eventItems closeList
  | c => do
    let j ← scalar c
    failWithin (.wrongType j.asFound "internally tagged enum EventSpec")

/-- A fault in the gathered fields has no place of its own. -/
def eventValue : Json.Reader EventDecl := do
  match ← eventParts with
  | .ok e => return e
  | .error cause => failWithin cause

structure Draft where
  frames : Option (List FrameDecl) := none
  siteKeys : Option (List SiteKeyDecl) := none
  collections : Option (List CollectionDecl) := none
  events : Option (List EventDecl) := none

def fileFields : List String :=
  ["frames", "site_keys", "collections", "events"]

def Draft.field (name : String) (d : Draft) : Json.Reader Draft :=
  match name with
  | "frames" => return { d with frames := ← fieldOnce name d.frames (listValue frameValue) }
  | "site_keys" => return { d with siteKeys := ← fieldOnce name d.siteKeys (listValue siteKeyValue) }
  | "collections" =>
    return { d with collections := ← fieldOnce name d.collections (listValue collectionValue) }
  | "events" => return { d with events := ← fieldOnce name d.events (listValue eventValue) }
  | _ => failWithin (.unknownField name fileFields)

def fileNamed : Json.Reader File := do
  let d ← fields Draft.field {}
  return ⟨d.frames.getD [], d.siteKeys.getD [], d.collections.getD [], d.events.getD []⟩

def fileListed : Json.Reader File := do
  let (more, frames) ← listedOr true 0 (listValue frameValue)
  let (more, siteKeys) ← listedOr more 1 (listValue siteKeyValue)
  let (more, collections) ← listedOr more 2 (listValue collectionValue)
  let (_, events) ← listedOr more 3 (listValue eventValue)
  return ⟨frames, siteKeys, collections, events⟩

def fileValue : Json.Reader File :=
  recordValue "struct ScenarioFile" fileNamed fileListed

def File.parse (s : String) : Except Json.Fault File :=
  Json.Reader.whole fileValue s

end FilterDispatch.Scenario
