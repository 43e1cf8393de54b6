import FilterDispatch.Proofs.Stats
import Mathlib.Data.List.Induction

/-!
Sessions.  Statistics are started, once or more often, and told of events in any order.  They hold the
counts of what they were told since the first start, and nothing else of their history.
-/

namespace FilterDispatch

/-- A resource that a rule let through or blocked. -/
def Notification.counts : Notification → Bool
  | .adMatched event => event.result.isMatch
  | .pageAllowed _ | .popupMatched _ => false

namespace Counts

variable {counts counts' : Counts} {u : Url}

def total : Counts → Nat
  | [] => 0
  | (_, n) :: rest => n + total rest

theorem total_increment (counts : Counts) (u : Url) :
    (counts.increment u).total = counts.total + 1 := by
  induction counts with
  | nil => rfl
  | cons e rest ih =>
      obtain ⟨v, n⟩ := e
      rw [increment]
      split
      · simp only [total]
        omega
      · split
        · simp only [total]
          omega
        · simp only [total] at ih ⊢
          omega

theorem Ordered.mem_keys_iff (ordered : counts.Ordered) : u ∈ counts.keys ↔ 0 < counts.count u := by
  constructor
  · intro member
    obtain ⟨⟨v, n⟩, there, rfl⟩ := List.mem_map.mp member
    obtain ⟨positive, counted⟩ := ordered.mem_iff.mp there
    exact counted ▸ positive
  · intro positive
    exact List.mem_map.mpr ⟨(u, counts.count u), ordered.mem_iff.mpr ⟨positive, rfl⟩, rfl⟩

theorem Ordered.nodup (ordered : counts.Ordered) : counts.Nodup :=
  List.Pairwise.of_map Prod.fst (fun _ _ differs same => differs (congrArg Prod.fst same))
    ordered.distinct

theorem Ordered.strict (ordered : counts.Ordered) : counts.Pairwise (·.1.text < ·.1.text) := by
  have sorted := ordered.sorted
  rwa [keys, List.pairwise_map] at sorted

theorem Ordered.ext (ordered : counts.Ordered) (ordered' : counts'.Ordered)
    (same : ∀ u, counts.count u = counts'.count u) : counts = counts' := by
  have moved : counts.Perm counts' := by
    apply (List.perm_ext_iff_of_nodup ordered.nodup ordered'.nodup).mpr
    rintro ⟨u, n⟩
    rw [ordered.mem_iff, ordered'.mem_iff, same]
  refine moved.eq_of_pairwise ?_ ordered.strict ordered'.strict
  intro e e' _ _ less less'
  exact absurd less' (String.lt_asymm less)

/-- The counts of one result, listed: each address of a match stands once, in order, with the number of
its matches. -/
structure Listing (counts : Counts) (result : MatchResult) (ns : List Notification) : Prop
    extends counts.Tally result ns where
  key : ∀ u, u ∈ counts.keys ↔ 0 < ns.countP (·.isMatch result u)
  sorted : counts.keys.Pairwise (·.text < ·.text)

theorem Ordered.listing {result : MatchResult} {ns : List Notification} (ordered : counts.Ordered)
    (counted : ∀ u, counts.count u = ns.countP (·.isMatch result u)) : counts.Listing result ns :=
  ⟨ordered.tally counted, fun u => by rw [ordered.mem_keys_iff, counted], ordered.sorted⟩

end Counts

namespace SessionStats

/-- What happens to statistics. -/
inductive Input
  | start
  | event (n : Notification)
  deriving DecidableEq

def Input.event? : Input → Option Notification
  | .start => none
  | .event n => some n

def feed (s : SessionStats) : Input → SessionStats
  | .start => s.start
  | .event n => s.observe n

def session (inputs : List Input) : SessionStats :=
  inputs.foldl feed {}

/-- The events after the first start. -/
def sinceStart : List Input → List Notification
  | [] => []
  | .start :: later => later.filterMap Input.event?
  | .event _ :: later => sinceStart later

def total (s : SessionStats) : Nat :=
  s.allowed.total + s.blocked.total

/-- Statistics of these events since collecting started, if it did. -/
inductive Since : SessionStats → List Notification → Prop
  | idle : Since {} []
  | collecting {s ns} : s.Observed ns → s.total = ns.countP Notification.counts → Since s ns

variable {s : SessionStats} {ns : List Notification} {n : Notification} {before after : List Input}

@[simp] theorem start_collecting (s : SessionStats) : s.start.collecting = true := rfl

theorem start_of_collecting (collecting : s.collecting = true) : s.start = s := by
  rw [start, ← collecting]

theorem start_start (s : SessionStats) : s.start.start = s.start := rfl

@[simp] theorem observe_collecting (s : SessionStats) (n : Notification) :
    (s.observe n).collecting = s.collecting := by
  cases n with
  | adMatched event =>
      cases collecting : s.collecting with
      | false => simp [observe, record, collecting]
      | true => cases result : event.result <;> simp [observe, record, collecting, result]
  | _ => rfl

theorem observe_of_idle (idle : s.collecting = false) (n : Notification) : s.observe n = s := by
  cases n with
  | adMatched event => simp [observe, record, idle]
  | _ => rfl

theorem observe_uncounted (uncounted : n.counts = false) (s : SessionStats) : s.observe n = s := by
  cases n with
  | adMatched event =>
      have none : event.result = .noRule := by
        simpa [Notification.counts, MatchResult.isMatch] using uncounted
      simp [observe, record, none]
  | _ => rfl

theorem total_observe (collecting : s.collecting = true) (n : Notification) :
    (s.observe n).total = s.total + if n.counts then 1 else 0 := by
  cases n with
  | adMatched event =>
      cases result : event.result with
      | noRule =>
          have uncounted : (Notification.adMatched event).counts = false := by
            rw [Notification.counts, result]
            rfl
          rw [observe_uncounted uncounted, uncounted]
          rfl
      | _ =>
          have counted : (Notification.adMatched event).counts = true := by
            rw [Notification.counts, result]
            rfl
          simp only [observe, record, collecting, result, if_true, total, Counts.total_increment,
            counted]
          omega
  | _ => rfl

theorem Since.start (since : Since s ns) : Since s.start ns := by
  cases since with
  | idle => exact .collecting started rfl
  | collecting observed total =>
      rw [start_of_collecting observed.collecting]
      exact .collecting observed total

theorem Since.observe (since : Since s ns) (n : Notification) :
    Since (s.observe n) (if s.collecting then ns ++ [n] else ns) := by
  cases since with
  | idle =>
      rw [observe_of_idle rfl]
      exact .idle
  | collecting observed total =>
      rw [if_pos observed.collecting]
      refine .collecting (observed.observe n) ?_
      rw [total_observe observed.collecting, total, List.countP_append, List.countP_singleton]

theorem Since.ext {s' : SessionStats} {ns' : List Notification} (since : Since s ns)
    (since' : Since s' ns') (collecting : s.collecting = s'.collecting)
    (same : ∀ result u, ns.countP (·.isMatch result u) = ns'.countP (·.isMatch result u)) :
    s = s' := by
  cases since with
  | idle =>
      cases since' with
      | idle => rfl
      | collecting observed total => rw [observed.collecting] at collecting; cases collecting
  | collecting observed total =>
      cases since' with
      | idle => rw [observed.collecting] at collecting; cases collecting
      | collecting observed' total' =>
          have allowed : s.allowed = s'.allowed := observed.allowed.ext observed'.allowed fun u => by
            rw [observed.allows, observed'.allows, same]
          have blocked : s.blocked = s'.blocked := observed.blocked.ext observed'.blocked fun u => by
            rw [observed.blocks, observed'.blocks, same]
          cases s
          cases s'
          cases collecting
          cases allowed
          cases blocked
          rfl

theorem Since.listings (since : Since s ns) : s.allowed.Listing .allowRule ns ∧
    s.blocked.Listing .blockRule ns ∧ s.total = ns.countP Notification.counts := by
  cases since with
  | idle =>
      exact ⟨started.allowed.listing started.allows, started.blocked.listing started.blocks, rfl⟩
  | collecting observed total =>
      exact ⟨observed.allowed.listing observed.allows, observed.blocked.listing observed.blocks, total⟩

theorem session_append (before after : List Input) :
    session (before ++ after) = after.foldl feed (session before) :=
  List.foldl_append

theorem sinceStart_of_not_started (idle : .start ∉ before) : sinceStart before = [] := by
  induction before with
  | nil => rfl
  | cons i rest ih =>
      cases i with
      | start => exact absurd List.mem_cons_self idle
      | event n => exact ih fun there => idle (List.mem_cons_of_mem _ there)

theorem sinceStart_append (started : .start ∈ before) (after : List Input) :
    sinceStart (before ++ after) = sinceStart before ++ after.filterMap Input.event? := by
  induction before with
  | nil => cases started
  | cons i rest ih =>
      cases i with
      | start => exact List.filterMap_append
      | event n => exact ih ((List.mem_cons.mp started).resolve_left (by simp))

theorem sinceStart_append_of_not_started (idle : .start ∉ before) (after : List Input) :
    sinceStart (before ++ after) = sinceStart after := by
  induction before with
  | nil => rfl
  | cons i rest ih =>
      cases i with
      | start => exact absurd List.mem_cons_self idle
      | event n => exact ih fun there => idle (List.mem_cons_of_mem _ there)

theorem feed_collecting (s : SessionStats) (i : Input) :
    (s.feed i).collecting = true ↔ s.collecting = true ∨ i = .start := by
  cases i with
  | start => simp [feed]
  | event n => simp [feed]

theorem session_collecting (inputs : List Input) :
    (session inputs).collecting = true ↔ .start ∈ inputs := by
  induction inputs using List.reverseRecOn with
  | nil => simp [session]
  | append_singleton earlier i ih =>
      have last : session (earlier ++ [i]) = (session earlier).feed i := session_append earlier [i]
      rw [last, feed_collecting, ih, List.mem_append, List.mem_singleton, eq_comm (a := i)]

/-- A session is the statistics of the events since its first start. -/
theorem session_since (inputs : List Input) : Since (session inputs) (sinceStart inputs) := by
  induction inputs using List.reverseRecOn with
  | nil => exact .idle
  | append_singleton earlier i ih =>
      have last : session (earlier ++ [i]) = (session earlier).feed i := session_append earlier [i]
      rw [last]
      by_cases begun : .start ∈ earlier
      · rw [sinceStart_append begun]
        cases i with
        | start => exact (List.append_nil _).symm ▸ ih.start
        | event n =>
            have more := ih.observe n
            rwa [if_pos ((session_collecting earlier).mpr begun)] at more
      · have idle : (session earlier).collecting ≠ true := mt (session_collecting earlier).mp begun
        rw [sinceStart_of_not_started begun] at ih
        rw [sinceStart_append_of_not_started begun]
        cases i with
        | start => exact ih.start
        | event n =>
            have same := ih.observe n
            rwa [if_neg idle] at same

theorem session_skip {i : Input} (idle : (session before).feed i = session before) :
    session (before ++ i :: after) = session (before ++ after) := by
  rw [session_append, List.foldl_cons, idle, ← session_append]

/-- After the start only the events count, whatever their order. -/
theorem session_perm {after' : List Input} (begun : .start ∈ before) (moved : after.Perm after') :
    session (before ++ after) = session (before ++ after') := by
  have collecting {later : List Input} : (session (before ++ later)).collecting = true :=
    (session_collecting _).mpr (List.mem_append_left later begun)
  refine (session_since _).ext (session_since _) (collecting.trans collecting.symm) fun result u => ?_
  rw [sinceStart_append begun, sinceStart_append begun]
  exact ((moved.filterMap _).append_left _).countP_eq _

theorem Since.mono {s' : SessionStats} {later : List Notification} (since : Since s ns)
    (since' : Since s' (ns ++ later)) (u : Url) :
    s.allowed.count u ≤ s'.allowed.count u ∧ s.blocked.count u ≤ s'.blocked.count u := by
  cases since with
  | idle => exact ⟨Nat.zero_le _, Nat.zero_le _⟩
  | collecting observed total =>
      generalize all : ns ++ later = ns' at since'
      cases since' with
      | idle =>
          obtain ⟨rfl, -⟩ := List.append_eq_nil_iff.mp all
          rw [observed.allows, observed.blocks]
          exact ⟨Nat.zero_le _, Nat.zero_le _⟩
      | collecting observed' total' =>
          rw [observed.allows, observed.blocks, observed'.allows, observed'.blocks, ← all,
            List.countP_append, List.countP_append]
          exact ⟨Nat.le_add_right _ _, Nat.le_add_right _ _⟩

theorem sinceStart_prefix (before after : List Input) :
    ∃ later, sinceStart (before ++ after) = sinceStart before ++ later := by
  by_cases begun : .start ∈ before
  · exact ⟨_, sinceStart_append begun after⟩
  · rw [sinceStart_of_not_started begun]
    exact ⟨_, rfl⟩

/-- What the statistics hold after these inputs, and what would make no difference among them. -/
structure Session (inputs : List Input) : Prop where
  collecting : (session inputs).collecting = true ↔ .start ∈ inputs
  allowed : (session inputs).allowed.Listing .allowRule (sinceStart inputs)
  blocked : (session inputs).blocked.Listing .blockRule (sinceStart inputs)
  total : (session inputs).total = (sinceStart inputs).countP Notification.counts
  uncounted : ∀ before n after, inputs = before ++ .event n :: after → n.counts = false →
    session inputs = session (before ++ after)
  early : ∀ before n after, inputs = before ++ .event n :: after → .start ∉ before →
    session inputs = session (before ++ after)
  again : ∀ before after, inputs = before ++ .start :: after → .start ∈ before →
    session inputs = session (before ++ after)
  permuted : ∀ before after after', inputs = before ++ after → .start ∈ before →
    after.Perm after' → session inputs = session (before ++ after')
  grows : ∀ before after, inputs = before ++ after → ∀ u,
    (session before).allowed.count u ≤ (session inputs).allowed.count u ∧
      (session before).blocked.count u ≤ (session inputs).blocked.count u

theorem sessions (inputs : List Input) : Session inputs := by
  obtain ⟨allowed, blocked, total⟩ := (session_since inputs).listings
  refine ⟨session_collecting inputs, allowed, blocked, total, ?uncounted, ?early, ?again, ?permuted,
    ?grows⟩
  case uncounted =>
    rintro before n after rfl uncounted
    exact session_skip (observe_uncounted uncounted _)
  case early =>
    rintro before n after rfl idle
    refine session_skip (observe_of_idle ?_ n)
    exact Bool.eq_false_iff.mpr (mt (session_collecting before).mp idle)
  case again =>
    rintro before after rfl begun
    exact session_skip (start_of_collecting ((session_collecting before).mpr begun))
  case permuted =>
    rintro before after after' rfl begun moved
    exact session_perm begun moved
  case grows =>
    rintro before after rfl u
    obtain ⟨later, more⟩ := sinceStart_prefix before after
    exact (session_since before).mono (more ▸ session_since (before ++ after)) u

end SessionStats

end FilterDispatch
