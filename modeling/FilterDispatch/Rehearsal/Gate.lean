import FilterDispatch.Dispatcher.Job

/-!
A gate at which background evaluations stop.  They start in the order in which they were posted, as
many as there are permits for; each that asks anything waits at its first call until it is released.
-/

namespace FilterDispatch.Rehearsal

inductive WorkEvent
  /-- An evaluation started and waits with its first call. -/
  | waits (run : Nat) (call : BackgroundCall)
  | calls (call : BackgroundCall)

structure Held where
  run : Nat
  id : JobId
  later : List BackgroundCall

/-- Evaluations that wait, the lowest run first. -/
structure Gate where
  nextRun : Nat := 0
  held : List Held := []

abbrev Jobs := WorkQueue Job JobOutput

namespace Gate

/-- Starts jobs, so many at most; one that asks nothing is finished as soon as it starts. -/
def startAtMost (engine : Engine) : Nat → Gate → Jobs → List WorkEvent × Gate × Jobs
  | 0, g, q => ([], g, q)
  | n + 1, g, q =>
    match q.waiting with
    | [] => ([], g, q)
    | (id, job) :: _ =>
      match q.start? id with
      | none => ([], g, q)
      | some q =>
        match (job.evaluate engine).calls with
        | [] => startAtMost engine n g ((q.finish? (Job.run engine) id).getD q)
        | call :: later =>
          let held := g.held ++ [⟨g.nextRun, id, later⟩]
          let (events, h, q) := startAtMost engine n { nextRun := g.nextRun + 1, held } q
          (.waits g.nextRun call :: events, h, q)

def startAll (engine : Engine) (g : Gate) (q : Jobs) : List WorkEvent × Gate × Jobs :=
  startAtMost engine q.waiting.length g q

/-- Lets an evaluation go on to its end. -/
def release? (engine : Engine) (run : Nat) (g : Gate) (q : Jobs) :
    Option (List WorkEvent × Gate × Jobs) :=
  match g.held.find? fun h => h.run = run with
  | none => none
  | some h =>
    let rest := g.held.filter fun e => e.run ≠ run
    some
      (h.later.map .calls, { g with held := rest }, (q.finish? (Job.run engine) h.id).getD q)

end Gate

end FilterDispatch.Rehearsal
