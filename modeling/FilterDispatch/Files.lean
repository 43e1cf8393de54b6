import FilterDispatch.Text.Utf8

/-! Files by their paths: what they hold, why they cannot be read, and a tree of them in memory. -/

namespace FilterDispatch

inductive ReadFault
  | notFound | notDirectory | isDirectory | nameTooLong | nulInPath | notUtf8
  | other (text : String)
  deriving DecidableEq, Repr

def ReadFault.message : ReadFault → String
  | .notFound => "No such file or directory (os error 2)"
  | .notDirectory => "Not a directory (os error 20)"
  | .isDirectory => "Is a directory (os error 21)"
  | .nameTooLong => "File name too long (os error 36)"
  | .nulInPath => "file name contained an unexpected NUL byte"
  | .notUtf8 => "stream did not contain valid UTF-8"
  | .other text => text

/-- A file that cannot be read, or one that can but does not hold what was looked for. -/
inductive LoadFault (ε : Type)
  | unreadable (path : String) (fault : ReadFault)
  | content (fault : ε)

def unreadableMessage (path : String) (fault : ReadFault) : String :=
  "Failed to read '" ++ path ++ "': " ++ fault.message

def LoadFault.message {ε : Type} (describe : ε → String) : LoadFault ε → String
  | .unreadable path fault => unreadableMessage path fault
  | .content fault => describe fault

def asText (bytes : List UInt8) : Except ReadFault String :=
  match Text.ofUtf8? bytes with
  | some s => .ok (String.ofList s)
  | none => .error .notUtf8

/-- What was read of a file, put into shape. -/
def loadBytes {ε α : Type} (parse : String → Except ε α) (path : String)
    (read : Except ReadFault (List UInt8)) : Except (LoadFault ε) α := do
  let bytes ← read.mapError (.unreadable path)
  let text ← (asText bytes).mapError (.unreadable path)
  (parse text).mapError .content

inductive FileNode
  | file (bytes : List UInt8)
  | directory (entries : List (String × FileNode))

namespace FileNode

/-- Names are at most so long. -/
def longestName : Nat := 255

/-- Paths are shorter than this. -/
def pathLimit : Nat := 4096

def byteCount (s : String) : Nat :=
  (Text.utf8Bytes s.toList).length

/-- The directories from the last one entered back to the root. -/
abbrev Trail := List (List (String × FileNode))

/-- Follows names from a directory; a name that is empty or a dot stays where it is, two dots go
back, from the root to the root. -/
def walk : List String → Trail → Except ReadFault FileNode
  | [], here :: _ => .ok (.directory here)
  | [], [] => .error .notFound
  | _ :: _, [] => .error .notFound
  | name :: rest, here :: above =>
    if name = "" ∨ name = "." then walk rest (here :: above)
    else if name = ".." then walk rest (if above.isEmpty then [here] else above)
    else if longestName < byteCount name then .error .nameTooLong
    else
      match here.lookup name with
      | none => .error .notFound
      | some (.directory inner) => walk rest (inner :: here :: above)
      | some (.file bytes) => if rest = [] then .ok (.file bytes) else .error .notDirectory

/-- Where a path starts: at the root if a slash leads it. -/
def origin (here : Trail) (path : String) : Trail :=
  if path.toList.head? = some '/' then here.getLast?.toList else here

def read (here : Trail) (path : String) : Except ReadFault (List UInt8) :=
  if path = "" then .error .notFound
  else if path.toList.contains '\x00' then .error .nulInPath
  else if pathLimit ≤ byteCount path then .error .nameTooLong
  else
    match walk (path.splitOn "/") (origin here path) with
    | .error fault => .error fault
    | .ok (.file bytes) => .ok bytes
    | .ok (.directory _) => .error .isDirectory

end FileNode

end FilterDispatch
