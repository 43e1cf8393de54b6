import FilterDispatch.Panic
import FilterDispatch.SiteKey
import FilterDispatch.Url

/-!
Snapshots of filter collections and the two scans over them.  A scan keeps the queries it made, so
its law can say not only what it finds but also whom it asks.
-/

namespace FilterDispatch

inductive SpecialFilter
  | document | elemhide | generichide | genericblock
  deriving DecidableEq, Repr

def SpecialFilter.text : SpecialFilter → String
  | .document => "document"
  | .elemhide => "elemhide"
  | .generichide => "generichide"
  | .genericblock => "genericblock"

/-- What a collection can be asked: for a rewrite target or for a special filter. -/
inductive Query
  | rewrite (url : Url) (ancestors : List Url)
  | special (filter : SpecialFilter) (url : Url) (ancestors : List Url) (siteKey : SiteKey)
  deriving DecidableEq, Repr

/-- A collection answers a query with an address, with nothing, or by a panic.  Two collections
are the same one if their ids are. -/
structure Collection where
  id : Nat
  answer : Query → Except Panic (Option Url)

abbrev Snapshot := List Collection

/-- An evaluation in the background: the calls it made, in order, and how it ended. -/
structure Evaluation (κ α : Type) where
  calls : List κ
  outcome : Except Panic α

namespace Evaluation

def done {κ α : Type} (a : α) : Evaluation κ α :=
  ⟨[], .ok a⟩

/-- One call and its outcome. -/
def call {κ α : Type} (c : κ) (outcome : Except Panic α) : Evaluation κ α :=
  ⟨[c], outcome⟩

/-- Goes on with the value unless there was a panic. -/
def andThen {κ α β : Type} (e : Evaluation κ α) (next : α → Evaluation κ β) : Evaluation κ β :=
  match e.outcome with
  | .error p => ⟨e.calls, .error p⟩
  | .ok a => ⟨e.calls ++ (next a).calls, (next a).outcome⟩

def map {κ α β : Type} (f : α → β) (e : Evaluation κ α) : Evaluation κ β :=
  ⟨e.calls, e.outcome.map f⟩

def mapCalls {κ κ' α : Type} (f : κ → κ') (e : Evaluation κ α) : Evaluation κ' α :=
  ⟨e.calls.map f, e.outcome⟩

end Evaluation

/-- A query and the position of the collection that was asked. -/
structure Asked where
  position : Nat
  query : Query
  deriving DecidableEq, Repr

def Collection.ask (c : Collection) (position : Nat) (q : Query) : Evaluation Asked (Option Url) :=
  .call ⟨position, q⟩ (c.answer q)

namespace Snapshot

def rewriteFrom (url : Url) (ancestors : List Url) :
    Nat → Snapshot → Evaluation Asked (Option Url)
  | _, [] => .done none
  | i, c :: rest =>
    (c.ask i (.rewrite url ancestors)).andThen fun
      | some target => .done (some target)
      | none => rewriteFrom url ancestors (i + 1) rest

/-- The first target in the order of the collections; those behind it are not asked. -/
def firstRewriteTarget (s : Snapshot) (url : Url) (ancestors : List Url) :
    Evaluation Asked (Option Url) :=
  rewriteFrom url ancestors 0 s

def documentQuery (url : Url) : Query :=
  .special .document url [] {}

def documentFrom (url : Url) : Nat → Option Url → Snapshot → Evaluation Asked (Option Url)
  | _, last, [] => .done last
  | i, _, c :: rest =>
    (c.ask i (documentQuery url)).andThen fun
      | none => .done none
      | some subscription => documentFrom url (i + 1) (some subscription) rest

/-- The answer of the last collection if every one has an answer; the first without one ends the
scan. -/
def documentAllowlistedBy (s : Snapshot) (url : Url) : Evaluation Asked (Option Url) :=
  documentFrom url 0 none s

def description (s : Snapshot) : String :=
  "SubscriptionSnapshot \x7b collections: " ++ toString s.length ++ " \x7d"

end Snapshot

end FilterDispatch
