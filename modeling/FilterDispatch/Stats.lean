import FilterDispatch.Notification

/-! Counts of matched resources for each subscription, from the moment collecting starts. -/

namespace FilterDispatch

/-- Positive counts in the order of the addresses. -/
abbrev Counts := List (Url × Nat)

namespace Counts

def count (u : Url) : Counts → Nat
  | [] => 0
  | (v, n) :: rest => if u = v then n else count u rest

def increment (u : Url) : Counts → Counts
  | [] => [(u, 1)]
  | (v, n) :: rest =>
    if u = v then (v, n + 1) :: rest
    else if u.text < v.text then (u, 1) :: (v, n) :: rest
    else (v, n) :: increment u rest

end Counts

structure SessionStats where
  collecting : Bool := false
  allowed : Counts := []
  blocked : Counts := []
  deriving DecidableEq, Repr

namespace SessionStats

def start (s : SessionStats) : SessionStats :=
  { s with collecting := true }

def record (s : SessionStats) (result : MatchResult) (subscription : Url) : SessionStats :=
  if s.collecting then
    match result with
    | .allowRule => { s with allowed := s.allowed.increment subscription }
    | .blockRule => { s with blocked := s.blocked.increment subscription }
    | .noRule => s
  else s

/-- Only matched resources count. -/
def observe (s : SessionStats) : Notification → SessionStats
  | .adMatched event => s.record event.result event.subscription
  | .pageAllowed _ | .popupMatched _ => s

end SessionStats

end FilterDispatch
