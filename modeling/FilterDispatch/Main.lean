import FilterDispatch.CommandLine.Basic

/-! The program: it reads files, prints lines and ends with a code. -/

namespace FilterDispatch

/-- The number of a fault in the operating system tells more than its kind. -/
def readFault : IO.Error → ReadFault
  | .noFileOrDirectory .. => .notFound
  | .inappropriateType _ code _ => if code = 20 then .notDirectory else .isDirectory
  | .invalidArgument _ code details =>
    if code = 36 then .nameTooLong else .other details
  | .permissionDenied _ code details =>
    .other (details ++ " (os error " ++ Text.natText code.toNat ++ ")")
  | e => .other (toString e)

def readFile (path : String) : IO (Except ReadFault (List UInt8)) := do
  if path.toList.contains '\x00' then return .error .nulInPath
  try
    return .ok (← IO.FS.readBinFile path).toList
  catch e =>
    return .error (readFault e)

end FilterDispatch

def main (args : List String) : IO UInt32 := do
  let ran ← FilterDispatch.CommandLine.run FilterDispatch.readFile args
  for line in ran.lines do
    IO.println line
  match ran.ending.complaint? with
  | some complaint => IO.eprintln complaint
  | none => pure ()
  return UInt32.ofNat ran.ending.code
