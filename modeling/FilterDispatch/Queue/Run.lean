import FilterDispatch.Queue

/-! Runs of a queue: its owner posts jobs and takes outcomes while workers start and end jobs, in any
order. -/

namespace FilterDispatch.WorkQueue

variable {ι ο : Type}

/-- The outcome of a job gets ahead of all others that have not been taken. -/
def overtake (id : JobId) (q : WorkQueue ι ο) : WorkQueue ι ο :=
  { q with finished := q.finished.filter (·.id = id) ++ q.finished.filter (·.id ≠ id) }

/-- A move of the owner or of a worker.  What ended first need not arrive first, so outcomes may
overtake each other. -/
inductive Move (ι : Type)
  | post (job : ι)
  | start (id : JobId)
  | finish (id : JobId)
  | overtake (id : JobId)
  | next
  | tryNext

inductive Event (ι ο : Type)
  | posted (id : JobId) (job : ι)
  | started (id : JobId)
  | stopped (id : JobId)
  | taken (f : Finished ο)
  | nothing

/-- A move that cannot be made changes nothing. -/
def step (work : ι → Except Panic ο) (q : WorkQueue ι ο) : Move ι → Event ι ο × WorkQueue ι ο
  | .post job => (.posted (q.post job).1 job, (q.post job).2)
  | .start id =>
    match q.start? id with
    | some r => (.started id, r)
    | none => (.nothing, q)
  | .finish id =>
    match q.finish? work id with
    | some r => (.stopped id, r)
    | none => (.nothing, q)
  | .overtake id => (.nothing, q.overtake id)
  | .next =>
    match q.next with
    | .taken f r => (.taken f, r)
    | .idle | .pending => (.nothing, q)
  | .tryNext =>
    match q.tryNext with
    | some (f, r) => (.taken f, r)
    | none => (.nothing, q)

def run (work : ι → Except Panic ο) (q : WorkQueue ι ο) :
    List (Move ι) → List (Event ι ο) × WorkQueue ι ο
  | [] => ([], q)
  | m :: rest =>
    let (e, r) := q.step work m
    let (es, t) := run work r rest
    (e :: es, t)

end FilterDispatch.WorkQueue
