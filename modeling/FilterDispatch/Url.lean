/-!
Addresses in serialised form.  An address is its text, so two addresses are equal, and ordered,
as their texts are; the scheme and the host are read off the text.
-/

namespace FilterDispatch

structure Url where
  text : String
  deriving DecidableEq, Repr

namespace Url

def scheme (u : Url) : String :=
  String.ofList (u.text.toList.takeWhile (· ≠ ':'))

def isWebSocket (u : Url) : Bool :=
  u.scheme == "ws" || u.scheme == "wss"

/-- What stands between the two slashes after the scheme and the path, query or fragment. -/
def authority? (u : Url) : Option (List Char) :=
  match u.text.toList.dropWhile (· ≠ ':') with
  | ':' :: '/' :: '/' :: rest => some (rest.takeWhile fun c => c ≠ '/' ∧ c ≠ '?' ∧ c ≠ '#')
  | _ => none

/-- The part after the last `@`. -/
def dropUserInfo (authority : List Char) : List Char :=
  (authority.reverse.takeWhile (· ≠ '@')).reverse

/-- A bracketed host ends with its bracket, any other before the colon of the port. -/
def dropPort : List Char → List Char
  | '[' :: rest => '[' :: (rest.takeWhile (· ≠ ']') ++ [']'])
  | host => host.takeWhile (· ≠ ':')

/-- The host, if there is one and it is not empty. -/
def host? (u : Url) : Option (List Char) :=
  match u.authority? with
  | none => none
  | some authority =>
    match dropPort (dropUserInfo authority) with
    | [] => none
    | host => some host

def le (u v : Url) : Bool :=
  u.text ≤ v.text

end Url

end FilterDispatch
