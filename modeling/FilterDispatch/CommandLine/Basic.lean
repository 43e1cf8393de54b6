import FilterDispatch.CommandLine.Help
import FilterDispatch.Files
import FilterDispatch.Replay.Basic
import FilterDispatch.Replay.Lines
import FilterDispatch.Stress.Measure

/-! What the program does with its arguments: which lines it prints and how it ends. -/

namespace FilterDispatch.CommandLine

inductive Ending
  | success
  | failure (message : String)
  | panic
  | usage
  deriving DecidableEq, Repr

structure Ran where
  lines : List String
  ending : Ending
  deriving DecidableEq, Repr

def Ending.code : Ending → Nat
  | .success => 0
  | .failure _ => 1
  | .usage => 2
  | .panic => 101

abbrev Read (m : Type → Type) := String → m (Except ReadFault (List UInt8))

variable {m : Type → Type} [Monad m]

def loadScenario (read : Read m) (path : String) :
    m (Except (LoadFault Scenario.Fault) Scenario) := do
  return loadBytes Scenario.parse path (← read path)

def loadConfig (read : Read m) (path : String) : m (Except (LoadFault Config.Fault) Config) := do
  return loadBytes Config.parse path (← read path)

def optionalConfig (read : Read m) : Option String → m (Except (LoadFault Config.Fault) Config)
  | none => return .ok {}
  | some path => loadConfig read path

def replayFailure : Replay.Fault → Ending
  | .config fault => .failure fault.message
  | .closed => .failure closedMessage
  | .panicked _ => .panic

/-- Nothing is printed unless the whole replay succeeds. -/
def replayed (s : Scenario) (c : Config) : Ran :=
  match Replay.replay s c with
  | .ok report => ⟨report.lines, .success⟩
  | .error fault => ⟨[], replayFailure fault⟩

def runReplay (read : Read m) (o : ReplayOptions) : m Ran := do
  match ← loadScenario read o.scenario with
  | .error fault => return ⟨[], .failure (fault.message Scenario.Fault.message)⟩
  | .ok s =>
    match ← optionalConfig read o.config with
    | .error fault => return ⟨[], .failure (fault.message Config.Fault.message)⟩
    | .ok c => return replayed s c

def rule (c : Char) : String :=
  String.ofList (List.replicate 50 c)

def stressHeader (o : StressOptions) (c : Config) : List String :=
  ["Dispatch Stress Check", rule '=',
    Text.natText o.requests ++ " requests across " ++ Text.natText o.frames ++ " frames, " ++
      Text.natText c.maxConcurrent ++ " concurrent evaluations"]

def stressResults (s : Stress.Summary) : List String :=
  ["", "Results", rule '-',
    "  Blocked:     " ++ Text.natText s.blocked ++ " / " ++ Text.natText s.requests, "", rule '=']

def stressFailure : Stress.Fault → Ending
  | .nothingToDo => .failure Stress.nothingToDoMessage
  | .config fault => .failure fault.message
  | .scenario fault => .failure fault.message
  | .url fault => .failure (Stress.badUrlMessage fault)
  | .closed => .failure closedMessage
  | .panicked _ => .panic

/-- The header stands also over a run that fails. -/
def stressed (o : StressOptions) (c : Config) : Ran :=
  match Stress.measure (fun _ => 0.0) o.requests o.frames c with
  | .ok s => ⟨stressHeader o c ++ stressResults s, .success⟩
  | .error fault => ⟨stressHeader o c, stressFailure fault⟩

def runStress (read : Read m) (o : StressOptions) : m Ran := do
  match ← optionalConfig read o.config with
  | .error fault => return ⟨[], .failure (fault.message Config.Fault.message)⟩
  | .ok c => return stressed o c

def runTask (read : Read m) : Task → m Ran
  | .replay o => runReplay read o
  | .stress o => runStress read o
  | .help topic => return ⟨helpLines topic, .success⟩

def run (read : Read m) (args : List String) : m Ran :=
  match parse args with
  | some task => runTask read task
  | none => return ⟨[], .usage⟩

/-- What is written to standard error. -/
def Ending.complaint? : Ending → Option String
  | .failure message => some ("Error: " ++ message)
  | .success | .panic | .usage => none

end FilterDispatch.CommandLine
