import FilterDispatch.Replay.Machine

/-! Replays: the machine is run by one fixed rule until its client is done. -/

namespace FilterDispatch.Replay

namespace Machine

/-- The client goes first, then the loop, then a worker. -/
def progress? (e : Engine) (m : Machine) : Option Machine :=
  m.client? <|> m.withService (m.service.progress? e)

/-- Moves on, so often at most, until there is an outcome. -/
def runFor (e : Engine) : Nat → Machine → Option (Option Report)
  | 0, m => m.outcome?
  | n + 1, m =>
    match m.outcome? with
    | some outcome => some outcome
    | none =>
      match m.progress? e with
      | some next => runFor e n next
      | none => none

/-- A task takes two moves of the client and five for its command at most. -/
def movesLeft (m : Machine) : Nat :=
  8 * m.todo.length

end Machine

inductive Fault
  | config (fault : Config.Fault)
  | closed
  | panicked (p : Panic)

/-- Replays a scenario; settings that cannot be used are refused before anything is done. -/
def replay (s : Scenario) (c : Config) : Except Fault Report :=
  match c.check with
  | .error fault => .error (.config fault)
  | .ok () =>
    match Machine.start s c with
    | .error p => .error (.panicked p)
    | .ok m =>
      match m.runFor (Machine.engine s) m.movesLeft with
      | some (some report) => .ok report
      | _ => .error .closed

end FilterDispatch.Replay
