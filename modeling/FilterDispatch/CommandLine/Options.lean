/-! The arguments of the program. -/

namespace FilterDispatch.CommandLine

structure ReplayOptions where
  scenario : String
  config : Option String := none
  deriving DecidableEq, Repr

structure StressOptions where
  requests : Nat := 10000
  frames : Nat := 16
  config : Option String := none
  deriving DecidableEq, Repr

inductive HelpTopic
  | program | replay | stress | help
  deriving DecidableEq, Repr

inductive Task
  | replay (options : ReplayOptions)
  | stress (options : StressOptions)
  | help (topic : HelpTopic)
  deriving DecidableEq, Repr

/-- An option has a letter and a name, and a value follows it. -/
structure OptionName where
  letter : Char
  name : String
  deriving DecidableEq, Repr

inductive Stop
  | usage
  | help
  deriving DecidableEq, Repr

abbrev Given := List (String × String)

def helpOption : OptionName := ⟨'h', "help"⟩

/-- A value of its own does not look like an option. -/
def isValue (arg : String) : Bool :=
  match arg.toList with
  | '-' :: _ :: _ => false
  | _ => true

/-- An option stands once. -/
def record (name value : String) (given : Given) : Except Stop Given :=
  match given.lookup name with
  | some _ => .error .usage
  | none => .ok ((name, value) :: given)

/-- Takes the value behind an option. -/
def takeValue (check : String → String → Bool) (name value : String) (given : Given) :
    Except Stop Given :=
  if check name value then record name value given else .error .usage

inductive Word
  | long (name : String) (value : Option String)
  | short (letter : Char) (value : Option String)
  | endOfOptions
  | plain

def dropEquals : List Char → String
  | '=' :: rest => String.ofList rest
  | cs => String.ofList cs

def wordOf (arg : String) : Word :=
  match arg.toList with
  | ['-', '-'] => .endOfOptions
  | '-' :: '-' :: rest =>
    match rest.dropWhile (· ≠ '=') with
    | '=' :: value => .long (String.ofList (rest.takeWhile (· ≠ '='))) (some (String.ofList value))
    | _ => .long (String.ofList rest) none
  | ['-', letter] => .short letter none
  | '-' :: letter :: value => .short letter (some (dropEquals value))
  | _ => .plain

def named (options : List OptionName) : Word → Option OptionName
  | .long name _ => options.find? fun o => o.name = name
  | .short letter _ => options.find? fun o => o.letter = letter
  | _ => none

def inlineValue : Word → Option String
  | .long _ value | .short _ value => value
  | _ => none

/-- Reads options with their values from left to right. -/
def collect (options : List OptionName) (check : String → String → Bool) :
    List String → Given → Except Stop Given
  | [], given => .ok given
  | arg :: rest, given =>
    match wordOf arg with
    | .endOfOptions => if rest.isEmpty then .ok given else .error .usage
    | .plain => .error .usage
    | word =>
      match named (helpOption :: options) word, inlineValue word, rest with
      | none, _, _ => .error .usage
      | some o, some value, rest =>
        if o = helpOption then
          match word with
          | .short _ _ => .error .help
          | _ => .error .usage
        else do collect options check rest (← takeValue check o.name value given)
      | some o, none, [] => if o = helpOption then .error .help else .error .usage
      | some o, none, value :: rest =>
        if o = helpOption then .error .help
        else if isValue value then do
          collect options check rest (← takeValue check o.name value given)
        else .error .usage

/-- Counts stay below this. -/
def countBound : Nat := 18446744073709551616

/-- Digits, with a plus sign in front of them or not, of a number of 64 bits. -/
def readCount (s : String) : Option Nat :=
  let ds := match s.toList with
    | '+' :: ds => ds
    | ds => ds
  if ds ≠ [] ∧ ds.all Char.isDigit then
    let n := ds.foldl (fun n c => 10 * n + (c.toNat - 48)) 0
    if n < countBound then some n else none
  else none

def isCountOption (name : String) : Bool :=
  name = "requests" || name = "frames"

def checkValue (name value : String) : Bool :=
  if isCountOption name then (readCount value).isSome else value ≠ ""

def replayOptions : List OptionName :=
  [⟨'s', "scenario"⟩, ⟨'c', "config"⟩]

def stressOptions : List OptionName :=
  [⟨'r', "requests"⟩, ⟨'f', "frames"⟩, ⟨'c', "config"⟩]

def count (given : Given) (name : String) (fallback : Nat) : Nat :=
  ((given.lookup name).bind readCount).getD fallback

def readReplay (args : List String) : Except Stop ReplayOptions := do
  let given ← collect replayOptions checkValue args []
  match given.lookup "scenario" with
  | some scenario => return { scenario, config := given.lookup "config" }
  | none => throw .usage

def readStress (args : List String) : Except Stop StressOptions := do
  let given ← collect stressOptions checkValue args []
  let requests := count given "requests" 10000
  let frames := count given "frames" 16
  return { requests, frames, config := given.lookup "config" }

def orHelp (topic : HelpTopic) (task : Except Stop Task) : Option Task :=
  match task with
  | .ok t => some t
  | .error .help => some (.help topic)
  | .error .usage => none

def helpTopic? : List String → Option HelpTopic
  | [] => some .program
  | ["replay"] => some .replay
  | ["stress"] => some .stress
  | ["help"] => some .help
  | _ => none

/-- Whether a word in the place of a command asks for help. -/
def asksHelp : Word → Bool
  | .short letter _ => letter = helpOption.letter
  | .long name none => name = helpOption.name
  | _ => false

/-- The task that the arguments ask for; nothing if they cannot be understood. -/
def parse : List String → Option Task
  | "replay" :: args => orHelp .replay (.replay <$> readReplay args)
  | "stress" :: args => orHelp .stress (.stress <$> readStress args)
  | "help" :: topic => (helpTopic? topic).map .help
  | arg :: _ => if asksHelp (wordOf arg) then some (.help .program) else none
  | [] => none

end FilterDispatch.CommandLine
