import FilterDispatch.Text.Case

/-! Response headers: pairs in arrival order, looked up by name without regard to ASCII case. -/

namespace FilterDispatch

structure Headers where
  entries : List (String × String) := []
  deriving DecidableEq, Repr

namespace Headers

/-- A pair with an empty name is dropped. -/
def insert (h : Headers) (name value : String) : Headers :=
  if name = "" then h else ⟨h.entries ++ [(name, value)]⟩

def insertAll (h : Headers) (pairs : List (String × String)) : Headers :=
  pairs.foldl (fun h p => h.insert p.1 p.2) h

def ofList (pairs : List (String × String)) : Headers :=
  insertAll {} pairs

def getAll (h : Headers) (name : String) : List String :=
  (h.entries.filter fun p => Text.sameIgnoringCase p.1 name).map (·.2)

def get? (h : Headers) (name : String) : Option String :=
  (h.entries.find? fun p => Text.sameIgnoringCase p.1 name).map (·.2)

def isEmpty (h : Headers) : Bool :=
  h.entries.isEmpty

end Headers

end FilterDispatch
