import FilterDispatch.Dispatcher.Run
import FilterDispatch.Rehearsal.Rule
import FilterDispatch.Stats

/-!
A host whose frames, observers and callbacks follow a script.  Observers are owned under names;
some only count, the others play their script whenever they are told something.
-/

namespace FilterDispatch.Rehearsal

/-- A frame, the id under which it is found and the pages above it. -/
structure FrameEntry where
  registered : FrameId
  live : LiveFrame
  ancestors : List Url
  deriving DecidableEq, Repr

inductive HostAction
  | insertFrame (e : FrameEntry)
  | destroyFrame (frame : FrameId)
  | newObserver (name : String) (counts : Bool) (script : List HostAction)
  | dropObserver (name : String)
  | startStats (name : String)
  | stats (name : String)
  | panic (message : String)
  | nothing

inductive HostOutcome
  | done
  | existed (b : Bool)
  | stats (s : SessionStats)
  | noStats

inductive Role
  | counting (s : SessionStats)
  | scripted (script : List HostAction)

structure Member where
  name : String
  role : Role

structure Cast where
  frames : List FrameEntry := []
  siteKeys : List (Url × SiteKey) := []
  rules : List Rule := []
  members : List Member := []
  owners : List (String × ObserverId) := []
  callbacks : List (CallId × List HostAction) := []

/-- Entries stay in the order of their ids, one for each. -/
def insertEntry (e : FrameEntry) : List FrameEntry → List FrameEntry
  | [] => [e]
  | f :: rest =>
    if e.registered = f.registered then e :: rest
    else if e.registered.le f.registered then e :: f :: rest
    else f :: insertEntry e rest

namespace Cast

def insertFrame (e : FrameEntry) (c : Cast) : Cast :=
  { c with frames := insertEntry e c.frames }

def destroyFrame (frame : FrameId) (c : Cast) : Bool × Cast :=
  (c.frames.any fun e => e.registered = frame,
    { c with frames := c.frames.filter fun e => e.registered ≠ frame })

def find? (frame : FrameId) (c : Cast) : Option LiveFrame :=
  (c.frames.find? fun e => e.registered = frame).map (·.live)

/-- The first entry with this very frame knows the pages above it. -/
def chain (frame : LiveFrame) (c : Cast) : List Url :=
  match c.frames.find? fun e => e.live = frame with
  | some e => e.ancestors
  | none => []

def siteKey? (c : Cast) : List Url → Option (Url × SiteKey)
  | [] => none
  | u :: rest =>
    match c.siteKeys.lookup u with
    | some key => some (u, key)
    | none => c.siteKey? rest

def observer? (name : String) (c : Cast) : Option ObserverId :=
  c.owners.lookup name

def disown (name : String) (c : Cast) : Cast :=
  { c with owners := c.owners.filter fun e => e.1 ≠ name }

def newObserver (name : String) (role : Role) (c : Cast) : Cast :=
  let c := c.disown name
  { c with
    members := c.members ++ [⟨name, role⟩]
    owners := (name, c.members.length) :: c.owners }

def statsOf? (name : String) (c : Cast) : Option (ObserverId × SessionStats) :=
  match c.observer? name with
  | none => none
  | some o =>
    match c.members[o]? with
    | some ⟨_, .counting s⟩ => some (o, s)
    | _ => none

def setRole (o : ObserverId) (role : Role) (c : Cast) : Cast :=
  { c with members := c.members.modify o fun m => { m with role } }

/-- The name of an observer that plays a script. -/
def scriptedName? (c : Cast) (o : ObserverId) : Option String :=
  match c.members[o]? with
  | some ⟨name, .scripted _⟩ => some name
  | _ => none

def act : HostAction → Control Cast HostOutcome
  | .insertFrame e => do
    modify (insertFrame e)
    return .done
  | .destroyFrame frame => do
    let (existed, c) := (← get).destroyFrame frame
    set c
    return .existed existed
  | .newObserver name counts script => do
    modify (newObserver name (if counts then .counting {} else .scripted script))
    return .done
  | .dropObserver name => do
    let existed := ((← get).observer? name).isSome
    modify (disown name)
    return .existed existed
  | .startStats name => do
    match (← get).statsOf? name with
    | none => return .noStats
    | some (o, s) =>
      modify (setRole o (.counting s.start))
      return .stats s.start
  | .stats name => do
    match (← get).statsOf? name with
    | none => return .noStats
    | some (_, s) => return .stats s
  | .panic message => throw (.message message)
  | .nothing => return .done

def play (script : List HostAction) : Control Cast Unit :=
  script.forM fun action => do
    let _ ← act action

def observe (o : ObserverId) (n : Notification) : Control Cast Unit := do
  match (← get).members[o]? with
  | none => return ()
  | some ⟨_, .counting s⟩ => modify (setRole o (.counting (s.observe n)))
  | some ⟨_, .scripted script⟩ => play script

def receive (call : CallId) : Control Cast Unit := do
  play (((← get).callbacks.lookup call).getD [])

instance : Host Cast where
  resolve frame := do return (← get).find? frame
  ancestorChain frame := do return (← get).chain frame
  findSiteKey urls := do return (← get).siteKey? urls
  classifyInline call := do
    match classifyBy (← get).rules call with
    | .ok c => return c
    | .error p => throw p
  receive call _ := receive call
  observe := observe
  owned c o := c.owners.any fun e => e.2 = o

end Cast

end FilterDispatch.Rehearsal
