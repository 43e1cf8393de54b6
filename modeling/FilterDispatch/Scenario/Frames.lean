import FilterDispatch.Frame

/-! The frames of a scenario.  Some die while they are dispatched: they are found only once. -/

namespace FilterDispatch.Scenario

structure DeclaredFrame where
  live : LiveFrame
  /-- Nearest parent first. -/
  ancestors : List Url := []
  diesAfterDispatch : Bool := false
  deriving DecidableEq, Repr

/-- A frame, and whether it was found before. -/
structure TableFrame where
  frame : DeclaredFrame
  dispatched : Bool := false
  deriving DecidableEq, Repr

structure FrameTable where
  frames : List TableFrame := []
  deriving DecidableEq, Repr

namespace FrameTable

def ofDeclared (frames : List DeclaredFrame) : FrameTable :=
  ⟨frames.map fun frame => { frame }⟩

def find? (t : FrameTable) (id : FrameId) : Option TableFrame :=
  t.frames.find? fun f => f.frame.live.id = id

def remove (id : FrameId) (t : FrameTable) : FrameTable :=
  ⟨t.frames.filter fun f => f.frame.live.id ≠ id⟩

def mark (id : FrameId) (t : FrameTable) : FrameTable :=
  ⟨t.frames.map fun f => if f.frame.live.id = id then { f with dispatched := true } else f⟩

/-- Looks a frame up; one that dies is gone at its second look-up. -/
def resolve (id : FrameId) (t : FrameTable) : Option LiveFrame × FrameTable :=
  match t.find? id with
  | none => (none, t)
  | some f =>
    if f.frame.diesAfterDispatch && f.dispatched then (none, t.remove id)
    else (some f.frame.live, t.mark id)

def ancestors (id : FrameId) (t : FrameTable) : List Url :=
  match t.find? id with
  | some f => f.frame.ancestors
  | none => []

end FrameTable

end FilterDispatch.Scenario
