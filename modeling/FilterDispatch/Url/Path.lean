import FilterDispatch.Url.Escape

/-!
Paths: dot segments are resolved from left to right, and in a path of files a drive letter stays
where it is.
-/

namespace FilterDispatch.Url

/-- Tabs and line ends say nothing in an address. -/
def isBreak (c : Char) : Bool :=
  c == '\t' || c == '\n' || c == '\r'

def isLetter (c : Char) : Bool :=
  ('a' ≤ c && c ≤ 'z') || ('A' ≤ c && c ≤ 'Z')

/-- A letter and a colon or a bar. -/
def isDrive : List Char → Bool
  | [a, b] => isLetter a && (b == ':' || b == '|')
  | _ => false

def isPlainDrive (s : List Char) : Bool :=
  isDrive s && s[1]? == some ':'

/-- A drive with nothing, or a separator, behind it. -/
def startsWithDrive : List Char → Bool
  | a :: b :: rest =>
    isDrive [a, b] &&
      match rest with
      | [] => true
      | c :: _ => c == '/' || c == '\\' || c == '?' || c == '#'
  | _ => false

/-- The text up to and with its last slash. -/
def upToSlash (s : List Char) : List Char :=
  (s.reverse.dropWhile (· ≠ '/')).reverse

/-- The text behind its last slash. -/
def behindSlash (s : List Char) : List Char :=
  (s.reverse.takeWhile (· ≠ '/')).reverse

def endsInSlash (s : List Char) : Bool :=
  s.getLast? == some '/'

def isDoubleDot (s : List Char) : Bool :=
  let t := String.ofList (s.map Char.toLower)
  t == ".." || t == "%2e%2e" || t == "%2e." || t == ".%2e"

def isSingleDot (s : List Char) : Bool :=
  let t := String.ofList (s.map Char.toLower)
  t == "." || t == "%2e"

/-- A final slash may go unless it is the first one or stands behind a drive. -/
def canDropSlash (path : List Char) : Bool :=
  let front := path.dropLast
  front.contains '/' && !startsWithDrive (behindSlash front ++ ['/'])

/-- Drops the last segment, but in a path of files no drive. -/
def popSegment (ofFiles : Bool) (path : List Char) : List Char :=
  if ofFiles && isPlainDrive (behindSlash path) then path else upToSlash path

/-- What a double dot makes of the path before it. -/
def parent (ofFiles : Bool) (path : List Char) (slashFollows : Bool) : List Char :=
  let path := if endsInSlash path && canDropSlash path then path.dropLast else path
  let path := if ofFiles && isPlainDrive path then path else popSegment ofFiles path
  if slashFollows && !endsInSlash path then path ++ ['/'] else path

/-- The path up to the current segment, that segment, and whether the host still counts.  A segment
is written at its end or at a break in it; its two parts, written and pending, are kept newest
first. -/
structure PathState where
  before : List Char
  written : List Char := []
  pending : List Char := []
  hasHost : Bool

namespace PathState

def segment (s : PathState) : List Char :=
  (s.pending ++ s.written).reverse

def write (s : PathState) : PathState :=
  { s with written := s.pending ++ s.written, pending := [] }

/-- Whether nothing is written but a slash and a drive; longer parts need not be read to the end. -/
def isAtDrive (s : PathState) : Bool :=
  isPlainDrive ((s.before.take 4 ++ (s.written.take 4).reverse).drop 1)

def close (ofFiles : Bool) (s : PathState) (slash : Bool) : PathState :=
  let tail : List Char := if slash then ['/'] else []
  let segment := s.segment
  if isDoubleDot segment then { before := parent ofFiles s.before slash, hasHost := s.hasHost }
  else if isSingleDot segment then
    { before := if endsInSlash s.before then s.before else s.before ++ ['/'], hasHost := s.hasHost }
  else if ofFiles && s.before == ['/'] && isDrive segment then
    { before := s.before ++ segment.take 1 ++ ':' :: tail, hasHost := false }
  else { before := s.before ++ segment ++ tail, hasHost := s.hasHost }

/-- Adds a character to the current segment.  Behind a drive that was written at the start of a
path of files it opens a segment of its own. -/
def add (ofFiles : Bool) (s : PathState) (c : Char) : PathState :=
  let escaped := (escapeChar inPath c).reverse
  if ofFiles && s.isAtDrive then
    let shifted := s.segment ++ ['/']
    { s with
      before := s.before ++ shifted.take 1
      written := (shifted.drop 1).reverse
      pending := escaped }
  else { s with pending := escaped ++ s.pending }

/-- A path of files starts with one slash. -/
def path (ofFiles : Bool) (s : PathState) : List Char :=
  if ofFiles then '/' :: s.before.dropWhile (· == '/') else s.before

end PathState

/-- Reads a path up to a question mark or number sign, which is left. -/
def readPath (special ofFiles : Bool) : PathState → List Char → PathState × List Char
  | s, [] => (s.close ofFiles false, [])
  | s, c :: rest =>
    if c = '/' ∨ (special ∧ c = '\\') then readPath special ofFiles (s.close ofFiles true) rest
    else if c = '?' ∨ c = '#' then (s.close ofFiles false, c :: rest)
    else if isBreak c then readPath special ofFiles s.write rest
    else readPath special ofFiles (s.add ofFiles c) rest

end FilterDispatch.Url
