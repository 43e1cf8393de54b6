import FilterDispatch.Panic
import FilterDispatch.Text.Numeral

/-!
Jobs in the background.  A job waits until a permit is free, runs, and leaves its outcome, which
counts as in flight until it is taken.
-/

namespace FilterDispatch

abbrev JobId := Nat

inductive JobError
  | panicked (text : String)
  | cancelled
  deriving DecidableEq, Repr

namespace JobError

def ofPanic (p : Panic) : JobError :=
  .panicked p.text

def message : JobError → String
  | .panicked text => "Background evaluation panicked: " ++ text
  | .cancelled => "Background evaluation cancelled"

end JobError

structure Finished (ο : Type) where
  id : JobId
  output : Except JobError ο

/-- The most permits that there can be. -/
def maxPermits : Nat := 2305843009213693951

def tooManyPermits : Panic :=
  .message
    ("a semaphore may not have more than MAX_PERMITS permits (" ++ Text.natText maxPermits ++ ")")

/-- Waiting jobs and outcomes are in the order in which they came. -/
structure WorkQueue (ι ο : Type) where
  free : Nat
  nextId : JobId := 0
  inFlight : Nat := 0
  waiting : List (JobId × ι) := []
  running : List (JobId × ι) := []
  finished : List (Finished ο) := []

namespace WorkQueue

variable {ι ο : Type}

/-- At most so many jobs run at once, and one at least. -/
def new (maxConcurrent : Nat) : Except Panic (WorkQueue ι ο) :=
  let permits := max 1 maxConcurrent
  if maxPermits < permits then .error tooManyPermits else .ok { free := permits }

def post (q : WorkQueue ι ο) (job : ι) : JobId × WorkQueue ι ο :=
  (q.nextId,
    { q with
      nextId := q.nextId + 1
      inFlight := q.inFlight + 1
      waiting := q.waiting ++ [(q.nextId, job)] })

def without (id : JobId) (jobs : List (JobId × ι)) : List (JobId × ι) :=
  jobs.filter fun j => j.1 ≠ id

/-- A waiting job takes a permit and runs. -/
def start? (q : WorkQueue ι ο) (id : JobId) : Option (WorkQueue ι ο) :=
  match q.waiting.find? fun j => j.1 = id with
  | some job =>
    if q.free = 0 then none
    else
      some
        { q with
          free := q.free - 1
          waiting := without id q.waiting
          running := q.running ++ [job] }
  | none => none

/-- A running job ends, gives its permit back and leaves its outcome. -/
def finish? (run : ι → Except Panic ο) (q : WorkQueue ι ο) (id : JobId) :
    Option (WorkQueue ι ο) :=
  match q.running.find? fun j => j.1 = id with
  | some job =>
    some
      { q with
        free := q.free + 1
        running := without id q.running
        finished := q.finished ++ [⟨id, (run job.2).mapError JobError.ofPanic⟩] }
  | none => none

/-- Takes an outcome that is there. -/
def tryNext (q : WorkQueue ι ο) : Option (Finished ο × WorkQueue ι ο) :=
  match q.finished with
  | [] => none
  | f :: rest => some (f, { q with inFlight := q.inFlight - 1, finished := rest })

/-- What waiting for the next outcome comes to. -/
inductive Next (ι ο : Type)
  | idle
  | pending
  | taken (f : Finished ο) (q : WorkQueue ι ο)

/-- Nothing is waited for when nothing is in flight. -/
def next (q : WorkQueue ι ο) : Next ι ο :=
  if q.inFlight = 0 then .idle
  else
    match q.tryNext with
    | none => .pending
    | some (f, q) => .taken f q

end WorkQueue

end FilterDispatch
