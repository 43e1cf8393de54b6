import FilterDispatch.Engine
import FilterDispatch.Text.Substring

/-!
Filter collections as tables, and the classifier over them.  Patterns are texts that occur in an
address; hosts whose documents are allowed match on the boundaries of labels.
-/

namespace FilterDispatch.Scenario

structure Table where
  subscription : Url
  block : List String := []
  allow : List String := []
  rewrites : List (String × Url) := []
  documentHosts : List String := []
  deriving DecidableEq, Repr

namespace Table

def allows (t : Table) (url : Url) : Bool :=
  t.allow.any fun pattern => Text.occursIn pattern url.text

def blocks (t : Table) (url : Url) : Bool :=
  t.block.any fun pattern => Text.occursIn pattern url.text

/-- The target of the first pattern that occurs. -/
def rewriteTarget (t : Table) (url : Url) : Option Url :=
  (t.rewrites.find? fun r => Text.occursIn r.1 url.text).map (·.2)

/-- Whether a host is the given one or lies below it. -/
def coversHost (entry host : List Char) : Bool :=
  host == entry || ('.' :: entry).isSuffixOf host

def allowsDocument (t : Table) (url : Url) : Bool :=
  match url.host? with
  | none => false
  | some host => t.documentHosts.any fun entry => coversHost entry.toList host

def answer (t : Table) : Query → Option Url
  | .rewrite url _ => t.rewriteTarget url
  | .special .document url _ _ => if t.allowsDocument url then some t.subscription else none
  | .special .. => none

end Table

/-- A table among the collections of a scenario. -/
structure DeclaredTable where
  id : Nat
  table : Table
  deriving DecidableEq, Repr

def DeclaredTable.collection (t : DeclaredTable) : Collection where
  id := t.id
  answer q := .ok (t.table.answer q)

def holds (s : Snapshot) (t : DeclaredTable) : Bool :=
  s.any fun c => c.id = t.id

/-- Only tables of the snapshot take part.  One that allows goes before all that block; among those
the first that was declared decides. -/
def classify (tables : List DeclaredTable) (s : Snapshot) (url : Url) : Classification :=
  let active := tables.filter (holds s)
  match active.find? fun t => t.table.allows url with
  | some t => .allowed t.table.subscription
  | none =>
    match active.find? fun t => t.table.blocks url with
    | some t => .blocked t.table.subscription
    | none => .ignored

/-- Nothing but the snapshot and the address counts. -/
def engine (tables : List DeclaredTable) : Engine where
  classify call := .ok (classify tables call.snapshot call.url)

end FilterDispatch.Scenario
