import FilterDispatch.Json.Record

/-! Settings of a dispatcher, their JSON form and the check that they can be used. -/

namespace FilterDispatch

structure Config where
  maxConcurrent : Nat := 8
  commandBuffer : Nat := 256
  deriving DecidableEq, Repr

namespace Config

inductive Fault
  | json (fault : Json.Fault)
  | zero (field : String)

def Fault.message : Fault → String
  | .json fault => "Invalid config JSON: " ++ fault.message
  | .zero field => "Invalid value for '" ++ field ++ "': must be at least 1"

def concurrencyField : String := "max_concurrent_evaluations"

def bufferField : String := "command_buffer"

/-- The first setting that is zero is at fault. -/
def check (c : Config) : Except Fault Unit :=
  if c.maxConcurrent = 0 then .error (.zero concurrencyField)
  else if c.commandBuffer = 0 then .error (.zero bufferField)
  else .ok ()

structure Draft where
  maxConcurrent : Option Nat := none
  commandBuffer : Option Nat := none

/-- A setting that is not given keeps its default. -/
def Draft.config (d : Draft) : Config :=
  { maxConcurrent := d.maxConcurrent.getD 8, commandBuffer := d.commandBuffer.getD 256 }

open Json.Reader

def countValue : Json.Reader Nat :=
  naturalValue "usize"

def fieldValue (name : String) (d : Draft) : Json.Reader Draft := do
  if name = concurrencyField then
    return { d with maxConcurrent := ← fieldOnce name d.maxConcurrent countValue }
  else if name = bufferField then
    return { d with commandBuffer := ← fieldOnce name d.commandBuffer countValue }
  else failWithin (.unknownField name [concurrencyField, bufferField])

def namedValue : Json.Reader Config := do
  return (← fields fieldValue {}).config

def positional : Json.Reader Config := do
  match ← listed? 0 countValue with
  | none => return {}
  | some n => return Draft.config ⟨some n, ← listed? 1 countValue⟩

def value : Json.Reader Config :=
  recordValue "struct DispatcherConfig" namedValue positional

def parse (s : String) : Except Fault Config :=
  match Json.Reader.whole value s with
  | .error fault => .error (.json fault)
  | .ok c =>
    match c.check with
    | .error fault => .error fault
    | .ok () => .ok c

end Config

end FilterDispatch
