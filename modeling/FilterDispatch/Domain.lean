import FilterDispatch.Domain.Label
import FilterDispatch.Text.Utf8

/-! Names of hosts in their ASCII form. -/

namespace FilterDispatch.Domain

/-- ASCII characters that no name may have. -/
def isForbidden (c : Char) : Bool :=
  c.toNat ≤ 0x20 || c.toNat == 0x7F ||
    ['%', '#', '/', ':', '<', '>', '?', '@', '[', '\\', ']', '^', '|'].contains c

/-- The labels between the dots of a name. -/
def labelsOf : List Char → List (List Char)
  | [] => [[]]
  | c :: rest =>
    if c = '.' then [] :: labelsOf rest
    else
      match labelsOf rest with
      | label :: more => (c :: label) :: more
      | [] => [[c]]

def joined (labels : List (List Char)) : List Char :=
  ['.'].intercalate labels

/-- Reads every label of a mapped name and writes them in ASCII. -/
def written? (name : List Char) : Option (List Char) := do
  let labels ← (labelsOf name).mapM Label.read
  if directionsAgree (labels.map (·.characters)) then some (joined (labels.map (·.ascii)))
  else none

/-- A name that only needs small letters. -/
def isSimple (name : List Char) : Bool :=
  Label.isAscii name && !(labelsOf name).any fun label => Label.encodedMark.isPrefixOf label

def ofCharacters (name : List Char) : Option (List Char) := do
  let name ← if Label.isAscii name then some (name.map Char.toLower) else (mapped? name).map composed
  if name.any isForbidden then none
  else if isSimple name then some name
  else written? name

/-- The ASCII form of a name given as bytes. -/
def toAscii? (bytes : List UInt8) : Option (List Char) :=
  (Text.ofUtf8? bytes).bind ofCharacters

end FilterDispatch.Domain
