import FilterDispatch.Snapshot

/-!
Scans over snapshots.  Both ask the collections in their order, each once, up to the first answer
that ends the scan: a target ends the search for one, a collection without an answer ends a
document check, and a panic ends either.
-/

namespace FilterDispatch

namespace Evaluation

variable {κ α β γ : Type}

theorem andThen_of_ok {e : Evaluation κ α} {a : α} (next : α → Evaluation κ β)
    (ended : e.outcome = .ok a) :
    e.andThen next = ⟨e.calls ++ (next a).calls, (next a).outcome⟩ := by
  rw [andThen, ended]

theorem andThen_of_error {e : Evaluation κ α} {p : Panic} (next : α → Evaluation κ β)
    (panicked : e.outcome = .error p) : e.andThen next = ⟨e.calls, .error p⟩ := by
  rw [andThen, panicked]

theorem done_andThen (a : α) (next : α → Evaluation κ β) : (done a).andThen next = next a := by
  rw [andThen_of_ok next rfl]
  rfl

theorem andThen_assoc (e : Evaluation κ α) (next : α → Evaluation κ β)
    (last : β → Evaluation κ γ) :
    (e.andThen next).andThen last = e.andThen fun a => (next a).andThen last := by
  cases first : e.outcome with
  | error p =>
      rw [andThen_of_error _ first, andThen_of_error _ first]
      exact andThen_of_error last rfl
  | ok a =>
      rw [andThen_of_ok _ first, andThen_of_ok _ first]
      cases second : (next a).outcome with
      | error p => rw [andThen_of_error last rfl, andThen_of_error last second]
      | ok b => rw [andThen_of_ok last rfl, andThen_of_ok last second, List.append_assoc]

end Evaluation

theorem Collection.ask_outcome (c : Collection) (i : Nat) (q : Query) :
    (c.ask i q).outcome = c.answer q := rfl

namespace Snapshot

/-- So many collections are asked one thing, from this position on, in order and each once. -/
def asks (i n : Nat) (q : Query) : List Asked :=
  (List.range' i n).map fun position => ⟨position, q⟩

theorem asks_succ (i n : Nat) (q : Query) : asks i (n + 1) q = ⟨i, q⟩ :: asks (i + 1) n q := by
  simp [asks, List.range'_succ]

/-- Which collections a scan asks, if some answers end it, and the answer that did. -/
inductive Scan (ends : Except Panic (Option Url) → Prop) (q : Query) (i : Nat) (s : Snapshot) :
    List Asked → Option (Except Panic (Option Url)) → Prop
  | ended {before c behind} : s = before ++ c :: behind → (∀ b ∈ before, ¬ ends (b.answer q)) →
      ends (c.answer q) → Scan ends q i s (asks i (before.length + 1) q) (some (c.answer q))
  | through : (∀ c ∈ s, ¬ ends (c.answer q)) → Scan ends q i s (asks i s.length q) none

namespace Scan

variable {ends : Except Panic (Option Url) → Prop} {q : Query} {i : Nat} {s : Snapshot}
  {c : Collection} {calls : List Asked} {stop : Option (Except Panic (Option Url))}

theorem first (rest : Snapshot) (stops : ends (c.answer q)) :
    Scan ends q i (c :: rest) [⟨i, q⟩] (some (c.answer q)) :=
  .ended (show c :: rest = [] ++ c :: rest from rfl) (by simp) stops

theorem onward (goesOn : ¬ ends (c.answer q)) (scan : Scan ends q (i + 1) s calls stop) :
    Scan ends q i (c :: s) (⟨i, q⟩ :: calls) stop := by
  cases scan with
  | @ended before d behind split earlier stops =>
      rw [← asks_succ]
      have split' : c :: s = (c :: before) ++ d :: behind := by rw [split, List.cons_append]
      refine .ended split' ?_ stops
      intro b member
      rcases List.mem_cons.mp member with rfl | later
      · exact goesOn
      · exact earlier b later
  | through all =>
      rw [← asks_succ]
      refine .through ?_
      intro b member
      rcases List.mem_cons.mp member with rfl | later
      · exact goesOn
      · exact all b later

theorem stop_eq_none (scan : Scan ends q i s calls stop) :
    stop = none ↔ ∀ c ∈ s, ¬ ends (c.answer q) := by
  cases scan with
  | @ended before c behind split earlier stops =>
      subst split
      simp only [reduceCtorEq, false_iff]
      exact fun all => all c (by simp) stops
  | through all => simpa using all

theorem calls_of_through (scan : Scan ends q i s calls none) : calls = asks i s.length q := by
  cases scan
  rfl

theorem stop_eq [DecidablePred ends] (scan : Scan ends q i s calls stop) :
    stop = (s.map (·.answer q)).find? (ends ·) := by
  cases scan with
  | @ended before c behind split earlier stops =>
      have none : (before.map (·.answer q)).find? (ends ·) = none := by
        simpa [List.find?_eq_none] using earlier
      rw [split, List.map_append, List.find?_append, none, List.map_cons,
        List.find?_cons_of_pos (by simpa using stops)]
      rfl
  | through all =>
      symm
      simpa [List.find?_eq_none] using all

theorem unique {j : Nat} {calls' : List Asked} {stop' : Option (Except Panic (Option Url))}
    (scan : Scan ends q i s calls stop) (other : Scan ends q j s calls' stop') : stop = stop' := by
  classical
  rw [scan.stop_eq, other.stop_eq]

theorem stopped (scan : Scan ends q i s calls stop) :
    ∀ a, stop = some a → ends a ∧ ∃ c ∈ s, c.answer q = a := by
  cases scan with
  | @ended before c behind split earlier stops =>
      subst split
      rintro a ⟨⟩
      exact ⟨stops, c, by simp, rfl⟩
  | through all => simp

end Scan

/-- Any answer but a regular nothing ends the search. -/
def Found (a : Except Panic (Option Url)) : Prop :=
  a ≠ .ok none

theorem rewriteFrom_scan (url : Url) (ancestors : List Url) (i : Nat) (s : Snapshot) :
    ∃ stop, Scan Found (.rewrite url ancestors) i s (rewriteFrom url ancestors i s).calls stop ∧
      (rewriteFrom url ancestors i s).outcome = stop.getD (.ok none) := by
  induction s generalizing i with
  | nil => exact ⟨none, .through (by simp), rfl⟩
  | cons c rest ih =>
      have asked := c.ask_outcome i (.rewrite url ancestors)
      rw [rewriteFrom]
      cases answer : c.answer (.rewrite url ancestors) with
      | error p =>
          rw [Evaluation.andThen_of_error _ (asked.trans answer)]
          exact ⟨_, .first rest (by simp [Found, answer]), answer.symm⟩
      | ok found =>
          rw [Evaluation.andThen_of_ok _ (asked.trans answer)]
          cases found with
          | some target => exact ⟨_, .first rest (by simp [Found, answer]), answer.symm⟩
          | none =>
              obtain ⟨stop, scan, outcome⟩ := ih (i + 1)
              exact ⟨stop, scan.onward (by simp [Found, answer]), outcome⟩

theorem rewriteFrom_append (url : Url) (ancestors : List Url) (i : Nat) (s t : Snapshot) :
    rewriteFrom url ancestors i (s ++ t) = (rewriteFrom url ancestors i s).andThen fun
      | some target => .done (some target)
      | none => rewriteFrom url ancestors (i + s.length) t := by
  induction s generalizing i with
  | nil => exact (Evaluation.done_andThen _ _).symm
  | cons c rest ih =>
      rw [List.cons_append, rewriteFrom, rewriteFrom, Evaluation.andThen_assoc]
      congr 1
      funext found
      cases found with
      | some target => exact (Evaluation.done_andThen _ _).symm
      | none =>
          simp only [ih (i + 1), List.length_cons]
          rw [Nat.add_right_comm]
          rfl

/-- What is found does not depend on where the count begins. -/
theorem rewriteFrom_shift (url : Url) (ancestors : List Url) (i : Nat) (s : Snapshot) :
    (rewriteFrom url ancestors i s).outcome = (s.firstRewriteTarget url ancestors).outcome := by
  obtain ⟨stop, scan, outcome⟩ := rewriteFrom_scan url ancestors i s
  obtain ⟨stop', scan', outcome'⟩ := rewriteFrom_scan url ancestors 0 s
  rw [firstRewriteTarget, outcome, outcome', scan.unique scan']

/-- Any answer but a subscription ends the check. -/
def Unlisted (a : Except Panic (Option Url)) : Prop :=
  ∀ subscription, a ≠ .ok (some subscription)

theorem not_unlisted {a : Except Panic (Option Url)} :
    ¬ Unlisted a ↔ ∃ subscription, a = .ok (some subscription) := by
  simp [Unlisted]

theorem documentFrom_scan (url : Url) (i : Nat) (last : Option Url) (s : Snapshot) :
    ∃ stop, Scan Unlisted (documentQuery url) i s (documentFrom url i last s).calls stop ∧
      (documentFrom url i last s).outcome =
        stop.getD ((s.getLast?.map (·.answer (documentQuery url))).getD (.ok last)) := by
  induction s generalizing i last with
  | nil => exact ⟨none, .through (by simp), rfl⟩
  | cons c rest ih =>
      have asked := c.ask_outcome i (documentQuery url)
      rw [documentFrom]
      cases answer : c.answer (documentQuery url) with
      | error p =>
          rw [Evaluation.andThen_of_error _ (asked.trans answer)]
          exact ⟨_, .first rest (by simp [Unlisted, answer]), answer.symm⟩
      | ok found =>
          rw [Evaluation.andThen_of_ok _ (asked.trans answer)]
          cases found with
          | none => exact ⟨_, .first rest (by simp [Unlisted, answer]), answer.symm⟩
          | some subscription =>
              obtain ⟨stop, scan, outcome⟩ := ih (i + 1) (some subscription)
              refine ⟨stop, scan.onward (by simp [Unlisted, answer]), outcome.trans ?_⟩
              -- the last one of all is the last of the rest, or the first if there is no rest
              rw [List.getLast?_cons]
              cases rest.getLast? with
              | none => simp [answer]
              | some d => simp

theorem documentFrom_append (url : Url) (i : Nat) (last : Option Url) {s : Snapshot}
    (nonempty : s ≠ []) (t : Snapshot) :
    documentFrom url i last (s ++ t) = (documentFrom url i last s).andThen fun
      | none => .done none
      | some subscription => documentFrom url (i + s.length) (some subscription) t := by
  induction s generalizing i last with
  | nil => exact absurd rfl nonempty
  | cons c rest ih =>
      rw [List.cons_append, documentFrom, documentFrom, Evaluation.andThen_assoc]
      congr 1
      funext found
      cases found with
      | none => exact (Evaluation.done_andThen _ _).symm
      | some subscription =>
          by_cases alone : rest = []
          · subst alone
            exact (Evaluation.done_andThen _ _).symm
          · simp only [ih (i + 1) _ alone, List.length_cons]
            rw [Nat.add_right_comm]
            rfl

/-- What a check comes to depends on the answers only, unless there are none. -/
theorem documentFrom_shift (url : Url) (i : Nat) (last : Option Url) {s : Snapshot}
    (nonempty : s ≠ []) :
    (documentFrom url i last s).outcome = (s.documentAllowlistedBy url).outcome := by
  obtain ⟨stop, scan, outcome⟩ := documentFrom_scan url i last s
  obtain ⟨stop', scan', outcome'⟩ := documentFrom_scan url 0 none s
  rw [documentAllowlistedBy, outcome, outcome', scan.unique scan',
    List.getLast?_eq_some_getLast nonempty]
  rfl

/-- There are collections, each has an answer, and the last one's is this. -/
structure Allowlists (s : Snapshot) (url subscription : Url) : Prop where
  nonempty : s ≠ []
  listed : ∀ c ∈ s, ∃ found, c.answer (.special .document url [] {}) = .ok (some found)
  last : (s.getLast nonempty).answer (.special .document url [] {}) = .ok (some subscription)

theorem allowlisted_iff {s : Snapshot} {url subscription : Url} :
    (s.documentAllowlistedBy url).outcome = .ok (some subscription) ↔
      s.Allowlists url subscription := by
  obtain ⟨stop, scan, outcome⟩ := documentFrom_scan url 0 none s
  rw [documentAllowlistedBy, outcome]
  constructor
  · intro allowed
    cases stop with
    | some a => exact absurd allowed ((scan.stopped a rfl).1 subscription)
    | none =>
        have nonempty : s ≠ [] := by
          rintro rfl
          cases allowed
        rw [List.getLast?_eq_some_getLast nonempty] at allowed
        exact ⟨nonempty, fun c member => not_unlisted.mp (scan.stop_eq_none.mp rfl c member),
          allowed⟩
  · rintro ⟨nonempty, listed, last⟩
    have through := scan.stop_eq_none.mpr fun c member => not_unlisted.mpr (listed c member)
    rw [through, List.getLast?_eq_some_getLast nonempty]
    exact last

/-- The collections answer this query without a panic. -/
def Regular (s : Snapshot) (q : Query) : Prop :=
  ∀ c ∈ s, ∃ a, c.answer q = .ok a

theorem Regular.left {s t : Snapshot} {q : Query} (regular : Regular (s ++ t) q) : Regular s q :=
  fun c member => regular c (List.mem_append_left _ member)

theorem Regular.right {s t : Snapshot} {q : Query} (regular : Regular (s ++ t) q) : Regular t q :=
  fun c member => regular c (List.mem_append_right _ member)

theorem Regular.rewrite {s : Snapshot} {url : Url} {ancestors : List Url}
    (regular : s.Regular (.rewrite url ancestors)) :
    ∃ r, (s.firstRewriteTarget url ancestors).outcome = .ok r := by
  obtain ⟨stop, scan, outcome⟩ := rewriteFrom_scan url ancestors 0 s
  rw [firstRewriteTarget, outcome]
  cases stop with
  | none => exact ⟨none, rfl⟩
  | some a =>
      obtain ⟨-, c, member, rfl⟩ := scan.stopped a rfl
      exact regular c member

theorem Regular.document {s : Snapshot} {url : Url}
    (regular : s.Regular (.special .document url [] {})) :
    ∃ r, (s.documentAllowlistedBy url).outcome = .ok r := by
  obtain ⟨stop, scan, outcome⟩ := documentFrom_scan url 0 none s
  rw [documentAllowlistedBy, outcome]
  cases stop with
  | some a =>
      obtain ⟨-, c, member, rfl⟩ := scan.stopped a rfl
      exact regular c member
  | none =>
      cases last : s.getLast? with
      | none => exact ⟨none, rfl⟩
      | some c => exact regular c (List.mem_of_getLast? last)

theorem rewrite_eq_none {s : Snapshot} {url : Url} {ancestors : List Url} :
    (s.firstRewriteTarget url ancestors).outcome = .ok none ↔
      (s.firstRewriteTarget url ancestors).calls = asks 0 s.length (.rewrite url ancestors) ∧
        ∀ c ∈ s, c.answer (.rewrite url ancestors) = .ok none := by
  obtain ⟨stop, scan, outcome⟩ := rewriteFrom_scan url ancestors 0 s
  rw [firstRewriteTarget, outcome]
  constructor
  · intro nothing
    cases stop with
    | some a => exact absurd nothing (scan.stopped a rfl).1
    | none =>
        refine ⟨scan.calls_of_through, fun c member => ?_⟩
        exact Classical.not_not.mp (scan.stop_eq_none.mp rfl c member)
  · rintro ⟨-, all⟩
    rw [scan.stop_eq_none.mpr fun c member found => found (all c member)]
    rfl

theorem Regular.rewrite_append {s t : Snapshot} {url : Url} {ancestors : List Url}
    (regular : Regular (s ++ t) (.rewrite url ancestors)) : ∃ r r',
      (s.firstRewriteTarget url ancestors).outcome = .ok r ∧
        (t.firstRewriteTarget url ancestors).outcome = .ok r' ∧
        (firstRewriteTarget (s ++ t) url ancestors).outcome =
          .ok (if r.isSome then r else r') := by
  obtain ⟨r, here⟩ := regular.left.rewrite
  obtain ⟨r', there⟩ := regular.right.rewrite
  refine ⟨r, r', here, there, ?_⟩
  have first : (rewriteFrom url ancestors 0 s).outcome = .ok r := here
  rw [firstRewriteTarget, rewriteFrom_append, Evaluation.andThen_of_ok _ first]
  cases r with
  | some target => rfl
  | none => exact (rewriteFrom_shift url ancestors _ t).trans there

theorem Regular.document_append {s t : Snapshot} {url : Url} (nonempty : s ≠ [])
    (nonempty' : t ≠ []) (regular : Regular (s ++ t) (.special .document url [] {})) : ∃ r r',
      (s.documentAllowlistedBy url).outcome = .ok r ∧
        (t.documentAllowlistedBy url).outcome = .ok r' ∧
        (documentAllowlistedBy (s ++ t) url).outcome =
          .ok (if r.isSome ∧ r'.isSome then r' else none) := by
  obtain ⟨r, here⟩ := regular.left.document
  obtain ⟨r', there⟩ := regular.right.document
  refine ⟨r, r', here, there, ?_⟩
  have first : (documentFrom url 0 none s).outcome = .ok r := here
  rw [documentAllowlistedBy, documentFrom_append url 0 none nonempty,
    Evaluation.andThen_of_ok _ first]
  cases r with
  | none => rfl
  | some subscription =>
      refine (documentFrom_shift url _ _ nonempty').trans (there.trans ?_)
      cases r' with
      | none => rfl
      | some last => rfl

/-- Whom the two scans of a snapshot ask, in which order, and what they come to. -/
structure Scanned (s : Snapshot) (url : Url) (ancestors : List Url) : Prop where
  rewrite : ∃ stop, Scan Found (.rewrite url ancestors) 0 s
      (s.firstRewriteTarget url ancestors).calls stop ∧
    (s.firstRewriteTarget url ancestors).outcome = stop.getD (.ok none)
  rewriteNone : (s.firstRewriteTarget url ancestors).outcome = .ok none ↔
    (s.firstRewriteTarget url ancestors).calls = asks 0 s.length (.rewrite url ancestors) ∧
      ∀ c ∈ s, c.answer (.rewrite url ancestors) = .ok none
  document : ∃ stop, Scan Unlisted (.special .document url [] {}) 0 s
      (s.documentAllowlistedBy url).calls stop ∧
    ∀ a, stop = some a → (s.documentAllowlistedBy url).outcome = a
  documentSome : (∃ subscription, (s.documentAllowlistedBy url).outcome = .ok (some subscription)) ↔
    s ≠ [] ∧ ∀ c ∈ s, ∃ found, c.answer (.special .document url [] {}) = .ok (some found)
  documentLast : ∀ subscription,
    (s.documentAllowlistedBy url).outcome = .ok (some subscription) ↔ s.Allowlists url subscription
  rewriteAppend : ∀ t : Snapshot, Regular (s ++ t) (.rewrite url ancestors) → ∃ r r',
    (s.firstRewriteTarget url ancestors).outcome = .ok r ∧
      (t.firstRewriteTarget url ancestors).outcome = .ok r' ∧
      (firstRewriteTarget (s ++ t) url ancestors).outcome = .ok (if r.isSome then r else r')
  documentAppend : ∀ t : Snapshot, s ≠ [] → t ≠ [] →
    Regular (s ++ t) (.special .document url [] {}) → ∃ r r',
      (s.documentAllowlistedBy url).outcome = .ok r ∧
        (t.documentAllowlistedBy url).outcome = .ok r' ∧
        (documentAllowlistedBy (s ++ t) url).outcome =
          .ok (if r.isSome ∧ r'.isSome then r' else none)

theorem scans_ask_prefix (s : Snapshot) (url : Url) (ancestors : List Url) :
    s.Scanned url ancestors := by
  refine ⟨rewriteFrom_scan url ancestors 0 s, rewrite_eq_none, ?document, ?documentSome,
    fun _ => allowlisted_iff, fun _ => Regular.rewrite_append, fun _ => Regular.document_append⟩
  case document =>
    obtain ⟨stop, scan, outcome⟩ := documentFrom_scan url 0 none s
    refine ⟨stop, scan, ?_⟩
    rintro a rfl
    exact outcome
  case documentSome =>
    simp only [allowlisted_iff]
    constructor
    · rintro ⟨subscription, nonempty, listed, -⟩
      exact ⟨nonempty, listed⟩
    · rintro ⟨nonempty, listed⟩
      obtain ⟨subscription, last⟩ := listed _ (List.getLast_mem nonempty)
      exact ⟨subscription, nonempty, listed, last⟩

end Snapshot

end FilterDispatch
