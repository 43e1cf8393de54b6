import FilterDispatch.Service.Run

/-!
The loop, and the loop with its workers, left to themselves: they go on for as long as there is
something to do.
-/

namespace FilterDispatch.Service

variable {σ : Type} [Host σ]

/-- A move of the loop with somebody to serve. -/
def serve? (s : Service σ) : Option (Service σ) :=
  s.enqueue? <|> s.takeCommand? <|> s.takeOutcome?

/-- A move that needs neither a client nor a worker. -/
def turn? (s : Service σ) : Option (Service σ) :=
  s.serve? <|> s.hangUp?

/-- Repeats a move for as long as it can be made, so often at most. -/
def repeatAtMost (move : Service σ → Option (Service σ)) : Nat → Service σ → Service σ
  | 0, s => s
  | n + 1, s =>
    match move s with
    | some t => repeatAtMost move n t
    | none => s

/-- Commands and outcomes that are there leave room for so many turns, one of them the last. -/
def turnsLeft (s : Service σ) : Nat :=
  2 * s.arriving.length + s.channel.length + s.dispatcher.queue.finished.length + 1

/-- The loop takes all there is to take, and does not look whether anybody is left. -/
def serveAll (s : Service σ) : Service σ :=
  repeatAtMost serve? s.turnsLeft s

def settle (s : Service σ) : Service σ :=
  repeatAtMost turn? s.turnsLeft s

/-- A move of a worker: the job that runs for the longest time ends, or the next one starts. -/
def work? (engine : Engine) (s : Service σ) : Option (Service σ) :=
  match s.dispatcher.queue.running with
  | (id, _) :: _ => s.finish? engine id
  | [] =>
    match s.dispatcher.queue.waiting with
    | (id, _) :: _ => s.start? id
    | [] => none

def progress? (engine : Engine) (s : Service σ) : Option (Service σ) :=
  s.turn? <|> s.work? engine

/-- A command is enqueued and taken; its job starts and ends, and its outcome is taken. -/
def movesLeft (s : Service σ) : Nat :=
  let q := s.dispatcher.queue
  5 * s.arriving.length + 4 * s.channel.length + 3 * q.waiting.length + 2 * q.running.length +
    q.finished.length + 1

/-- Goes on until nothing is left to do. -/
def rest (engine : Engine) (s : Service σ) : Service σ :=
  repeatAtMost (progress? engine) s.movesLeft s

end FilterDispatch.Service
