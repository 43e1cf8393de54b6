import FilterDispatch.Domain
import FilterDispatch.Text.Numeral
import FilterDispatch.Url
import FilterDispatch.Url.Ipv4
import FilterDispatch.Url.Ipv6
import FilterDispatch.Url.Path

/-!
Reading an address.  Each part is read after the one before it, and what it leaves is handed on;
the parts are written one behind the other.
-/

namespace FilterDispatch.Url

inductive Fault
  | noBase | emptyHost | badPort | badIpv4 | badIpv6 | badDomainCharacter | badDomain
  deriving DecidableEq, Repr

def Fault.message : Fault → String
  | .noBase => "relative URL without a base"
  | .emptyHost => "empty host"
  | .badPort => "invalid port number"
  | .badIpv4 => "invalid IPv4 address"
  | .badIpv6 => "invalid IPv6 address"
  | .badDomainCharacter => "invalid domain character"
  | .badDomain => "invalid international domain name"

/-- How the scheme makes the rest be read. -/
inductive Manner
  | file | special | plain
  deriving DecidableEq, Repr

def Manner.ofScheme (scheme : List Char) : Manner :=
  match String.ofList scheme with
  | "file" => .file
  | "http" | "https" | "ws" | "wss" | "ftp" => .special
  | _ => .plain

def Manner.isSpecial (m : Manner) : Bool :=
  m ≠ .plain

def defaultPort (scheme : List Char) : Option Nat :=
  match String.ofList scheme with
  | "http" | "ws" => some 80
  | "https" | "wss" => some 443
  | "ftp" => some 21
  | _ => none

def isControlOrSpace (c : Char) : Bool :=
  c.toNat ≤ 0x20

/-- Drops control characters and spaces at both ends. -/
def trim (s : List Char) : List Char :=
  let front := s.dropWhile isControlOrSpace
  (front.reverse.dropWhile isControlOrSpace).reverse

def dropBreaks (s : List Char) : List Char :=
  s.filter (!isBreak ·)

def isSchemeChar (c : Char) : Bool :=
  isLetter c || c.isDigit || c == '+' || c == '-' || c == '.'

/-- A letter, then letters, digits and a few signs, then a colon; in small letters. -/
def scheme? (s : List Char) : Option (List Char × List Char) :=
  match s with
  | [] => none
  | c :: _ =>
    if isLetter c then
      match s.dropWhile isSchemeChar with
      | ':' :: rest => some ((s.takeWhile isSchemeChar).map Char.toLower, rest)
      | _ => none
    else none

/-- A host as it is written; the empty one stands for none. -/
def bracketedHost (s : List Char) : Except Fault (List Char) :=
  match s with
  | '[' :: rest =>
    if rest.getLast? = some ']' then
      match Ipv6.parse? rest.dropLast with
      | some ps => .ok ('[' :: Ipv6.text ps ++ [']'])
      | none => .error .badIpv6
    else .error .badIpv6
  | _ => .error .badIpv6

def isForbiddenInHost (c : Char) : Bool :=
  c.toNat == 0 ||
    ['\t', '\n', '\r', ' ', '#', '/', ':', '<', '>', '?', '@', '[', '\\', ']', '^', '|'].contains c

/-- The host of an address whose scheme is not special. -/
def opaqueHost (s : List Char) : Except Fault (List Char) :=
  if s.head? = some '[' then bracketedHost s
  else if s.any isForbiddenInHost then .error .badDomainCharacter
  else .ok (escape isControl s)

/-- A domain, or an IP address in one of its spellings. -/
def namedHost (s : List Char) : Except Fault (List Char) :=
  if s.head? = some '[' then bracketedHost s
  else
    match Domain.toAscii? (unescape (Text.utf8Bytes s)) with
    | none => .error .badDomain
    | some [] => .error .emptyHost
    | some name =>
      if Ipv4.endsInNumber name then
        match Ipv4.parse? name with
        | some n => .ok (Ipv4.text n)
        | none => .error .badIpv4
      else .ok name

/-- Cuts a host off: it ends before a slash, question mark or number sign, and before a colon
that stands in no brackets. -/
def cutHost (special : Bool) : Bool → List Char → List Char × List Char
  | _, [] => ([], [])
  | bracketed, c :: rest =>
    if (c = ':' ∧ !bracketed) ∨ (special ∧ c = '\\') ∨ c = '/' ∨ c = '?' ∨ c = '#' then
      ([], c :: rest)
    else
      let inside := if c = '[' then true else if c = ']' then false else bracketed
      let (host, left) := cutHost special inside rest
      (c :: host, left)

def host (m : Manner) (s : List Char) : Except Fault (List Char × List Char) := do
  let (name, rest) := cutHost m.isSpecial false s
  if m.isSpecial then
    if name.isEmpty then .error .emptyHost else return (← namedHost name, rest)
  else return (← opaqueHost name, rest)

/-- What stands before the last `@` of an authority and what stands behind it. -/
def cutUserInfo (special : Bool) (s : List Char) : Option (List Char × List Char) :=
  let authority :=
    s.takeWhile fun c => !(c == '/' || c == '?' || c == '#' || (special && c == '\\'))
  if authority.contains '@' then
    let length := (authority.reverse.dropWhile (· ≠ '@')).length
    some (s.take (length - 1), s.drop length)
  else none

/-- The name up to the first colon and the password behind it; an empty one takes its sign away. -/
def userInfoText (s : List Char) : List Char :=
  let name := s.takeWhile (· ≠ ':')
  let password := (s.dropWhile (· ≠ ':')).drop 1
  let written :=
    escape inUserInfo name ++
      if password.isEmpty then [] else ':' :: escape inUserInfo password
  if written.isEmpty then [] else written ++ ['@']

def startsAuthorityEnd (special : Bool) (s : List Char) : Bool :=
  match s with
  | c :: _ => c == '/' || c == '?' || c == '#' || (special && c == '\\')
  | [] => false

def userInfo (m : Manner) (s : List Char) : Except Fault (List Char × List Char) :=
  match cutUserInfo m.isSpecial s with
  | none => .ok ([], s)
  | some ([], rest) =>
    if startsAuthorityEnd m.isSpecial rest then .error .emptyHost else .ok ([], rest)
  | some (info, rest) => .ok (userInfoText info, rest)

/-- Digits up to the end of the authority; a number beyond 65535 is found before a bad sign. -/
def portNumber : Option Nat → List Char → Except Fault (Option Nat × List Char)
  | n, [] => .ok (n, [])
  | n, c :: rest =>
    if c.isDigit then
      let n := n.getD 0 * 10 + (c.toNat - 48)
      if 65535 < n then .error .badPort else portNumber (some n) rest
    else if c = '/' ∨ c = '\\' ∨ c = '?' ∨ c = '#' then .ok (n, c :: rest)
    else .error .badPort

/-- A port is not written if it is the one of the scheme. -/
def port (scheme : List Char) (s : List Char) : Except Fault (List Char × List Char) :=
  match s with
  | ':' :: rest => do
    let (n, left) ← portNumber none rest
    match n with
    | none => return ([], left)
    | some n =>
      if defaultPort scheme = some n then return ([], left)
      else return (':' :: Text.digits n, left)
  | s => .ok ([], s)

def queryAndFragment (special : Bool) (s : List Char) : List Char :=
  match s with
  | '?' :: rest =>
    let query := rest.takeWhile (· ≠ '#')
    '?' :: escape (if special then inSpecialQuery else inQuery) query ++
      match rest.dropWhile (· ≠ '#') with
      | [] => []
      | _ :: fragment => '#' :: escape inFragment fragment
  | '#' :: fragment => '#' :: escape inFragment fragment
  | _ => []

/-- The path behind an authority: of a special address it is never empty. -/
def pathAfterHost (m : Manner) (hasHost : Bool) (s : List Char) : PathState × List Char :=
  let read := readPath m.isSpecial (m = .file)
  if m.isSpecial then
    match s with
    | '/' :: rest | '\\' :: rest => read { before := ['/'], hasHost } rest
    | s => read { before := ['/'], hasHost } s
  else
    match s with
    | [] => ({ before := [], hasHost }, [])
    | '?' :: _ | '#' :: _ => ({ before := [], hasHost }, s)
    | '/' :: _ => read { before := [], hasHost } s
    | s => read { before := ['/'], hasHost } s

def withAuthority (m : Manner) (scheme s : List Char) : Except Fault (List Char) := do
  let (info, s) ← userInfo m s
  let (name, s) ← host m s
  if name.isEmpty ∧ (s.head? = some ':' ∨ !info.isEmpty) then .error .emptyHost
  else
    let (port, s) ← port scheme s
    let (path, s) := pathAfterHost m (!name.isEmpty) s
    return scheme ++ ':' :: '/' :: '/' :: info ++ name ++ port ++ path.path false ++
      queryAndFragment m.isSpecial s

/-- A path of other than special addresses that starts with two slashes and follows no authority
has a dot written before it. -/
def withoutAuthority (scheme s : List Char) : List Char :=
  match s with
  | '/' :: rest =>
    let (path, s) := readPath false false { before := ['/'], hasHost := false } rest
    let written :=
      match path.before with
      | '/' :: '/' :: _ => '/' :: '.' :: path.before
      | p => p
    scheme ++ ':' :: written ++ queryAndFragment false s
  | s =>
    let isEnd (c : Char) : Bool := c == '?' || c == '#'
    scheme ++ ':' :: escape isControl (s.takeWhile (!isEnd ·)) ++
      queryAndFragment false (s.dropWhile (!isEnd ·))

/-- The address of a file.  Breaks are dropped last, since they matter behind a drive. -/
def fileText (name : List Char) (path : PathState) (rest : List Char) : List Char :=
  "file://".toList ++ (if path.hasHost then name else []) ++ path.path true ++
    queryAndFragment true (dropBreaks rest)

/-- The host of a file address; a drive in its place belongs to the path, and `localhost` is
none. -/
def fileHost (s : List Char) : Except Fault (List Char × List Char) := do
  let isEnd (c : Char) : Bool := c == '/' || c == '\\' || c == '?' || c == '#'
  let name := dropBreaks (s.takeWhile (!isEnd ·))
  if isDrive name then return ([], s)
  else
    let rest := s.dropWhile (!isEnd ·)
    if name.isEmpty then return ([], rest)
    else
      let written ← namedHost name
      return (if written = "localhost".toList then [] else written, rest)

def isSlash (c : Char) : Bool :=
  c == '/' || c == '\\'

/-- What follows a slash, if there is one after any breaks. -/
def afterSlash? (s : List Char) : Option (List Char) :=
  match s.dropWhile isBreak with
  | c :: rest => if isSlash c then some rest else none
  | [] => none

def ofFile (s : List Char) : Except Fault (List Char) :=
  match afterSlash? s with
  | none =>
    let (path, rest) := readPath true true { before := ['/'], hasHost := false } s
    return fileText [] path rest
  | some behind =>
    match afterSlash? behind with
    | none =>
      let (path, rest) := readPath true true { before := [], hasHost := false } s
      return fileText [] path rest
    | some authority => do
      let (name, rest) ← fileHost authority
      let (path, rest) :=
        if name.isEmpty then readPath true true { before := ['/'], hasHost := false } rest
        else pathAfterHost .file true rest
      return fileText name path rest

def parseChars (s : List Char) : Except Fault (List Char) :=
  let s := trim s
  match scheme? (dropBreaks s) with
  | none => .error .noBase
  | some (scheme, rest) =>
    match Manner.ofScheme scheme with
    | .file => ofFile ((s.dropWhile (· ≠ ':')).drop 1)
    | .special => withAuthority .special scheme (rest.dropWhile isSlash)
    | .plain =>
      match rest with
      | '/' :: '/' :: rest => withAuthority .plain scheme rest
      | rest => .ok (withoutAuthority scheme rest)

/-- Reads an address that stands on its own. -/
def parse (s : String) : Except Fault Url :=
  match parseChars s.toList with
  | .ok text => .ok ⟨String.ofList text⟩
  | .error e => .error e

end FilterDispatch.Url
