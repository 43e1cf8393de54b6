import FilterDispatch.Stats

/-!
What the counts are of.  They tally what was observed since collecting started: for each subscription
the matched resources that it let through, and those that it blocked.
-/

namespace FilterDispatch

/-- A matched resource of this result and this subscription. -/
def Notification.isMatch (result : MatchResult) (u : Url) : Notification → Bool
  | .adMatched event => event.result = result ∧ event.subscription = u
  | .pageAllowed _ | .popupMatched _ => false

namespace Counts

def keys (counts : Counts) : List Url :=
  counts.map (·.1)

/-- Each address stands once, in its place, and was counted. -/
structure Ordered (counts : Counts) : Prop where
  sorted : counts.keys.Pairwise (·.text < ·.text)
  positive : ∀ e ∈ counts, 0 < e.2

variable {counts rest : Counts} {u v : Url} {n : Nat}

theorem Ordered.tail (ordered : Ordered ((v, n) :: rest)) : Ordered rest :=
  ⟨(List.pairwise_cons.mp ordered.sorted).2, (List.forall_mem_cons.mp ordered.positive).2⟩

theorem Ordered.before (ordered : Ordered ((v, n) :: rest)) : ∀ w ∈ rest.keys, v.text < w.text :=
  (List.pairwise_cons.mp ordered.sorted).1

theorem Ordered.distinct (ordered : Ordered counts) : counts.keys.Nodup := by
  refine ordered.sorted.imp ?_
  rintro u _ less rfl
  exact String.lt_irrefl u.text less

theorem count_eq_zero (absent : u ∉ counts.keys) : counts.count u = 0 := by
  induction counts with
  | nil => rfl
  | cons e rest ih =>
      obtain ⟨other, later⟩ := not_or.mp (mt List.mem_cons.mpr absent)
      exact (if_neg other).trans (ih later)

theorem Ordered.mem_iff (ordered : Ordered counts) :
    (u, n) ∈ counts ↔ 0 < n ∧ counts.count u = n := by
  induction counts with
  | nil =>
      simp only [List.not_mem_nil, count, false_iff]
      omega
  | cons e rest ih =>
      obtain ⟨v, k⟩ := e
      have first : 0 < k := ordered.positive (v, k) List.mem_cons_self
      rw [List.mem_cons, ih ordered.tail, Prod.mk.injEq, count]
      by_cases same : u = v
      · subst same
        have absent : count u rest = 0 := count_eq_zero fun there =>
          String.lt_irrefl _ (ordered.before u there)
        simp only [if_true, absent, true_and]
        omega
      · simp [same]

theorem mem_keys_increment : v ∈ (counts.increment u).keys ↔ v = u ∨ v ∈ counts.keys := by
  induction counts with
  | nil => simp [increment, keys]
  | cons e rest ih =>
      obtain ⟨w, k⟩ := e
      rw [increment]
      split
      · next same => simp [keys, same]
      · split
        · simp [keys]
        · have later : v ∈ keys ((w, k) :: increment u rest) ↔ v = w ∨ v ∈ (increment u rest).keys :=
            List.mem_cons
          rw [later, ih]
          have here : v ∈ keys ((w, k) :: rest) ↔ v = w ∨ v ∈ keys rest := List.mem_cons
          rw [here]
          exact or_left_comm

theorem Ordered.increment (ordered : Ordered counts) (u : Url) : Ordered (counts.increment u) := by
  induction counts with
  | nil => exact ⟨List.pairwise_singleton _ _, by simp [Counts.increment]⟩
  | cons e rest ih =>
      obtain ⟨w, k⟩ := e
      have later := ih ordered.tail
      rw [Counts.increment]
      split
      · exact ⟨ordered.sorted,
          List.forall_mem_cons.mpr ⟨Nat.succ_pos k, ordered.tail.positive⟩⟩
      · next other =>
          split
          · next less =>
              refine ⟨List.pairwise_cons.mpr ⟨fun v member => ?_, ordered.sorted⟩,
                List.forall_mem_cons.mpr ⟨Nat.one_pos, ordered.positive⟩⟩
              rcases List.mem_cons.mp member with rfl | there
              · exact less
              · exact String.lt_trans less (ordered.before v there)
          · next excess =>
              have greater : w.text < u.text :=
                Std.lt_of_le_of_ne (String.not_lt.mp excess) fun same =>
                  other (congrArg Url.mk same).symm
              refine ⟨List.pairwise_cons.mpr ⟨fun v member => ?_, later.sorted⟩,
                List.forall_mem_cons.mpr ⟨ordered.positive _ List.mem_cons_self, later.positive⟩⟩
              rcases mem_keys_increment.mp member with rfl | there
              · exact greater
              · exact ordered.before v there

theorem Ordered.count_increment (ordered : Ordered counts) (u v : Url) :
    (counts.increment u).count v = counts.count v + if v = u then 1 else 0 := by
  induction counts with
  | nil => simp [Counts.increment, count]
  | cons e rest ih =>
      obtain ⟨w, k⟩ := e
      rw [Counts.increment]
      by_cases same : u = w
      · subst same
        by_cases here : v = u <;> simp [count, here]
      · rw [if_neg same]
        split
        · next less =>
            have absent : count u ((w, k) :: rest) = 0 := count_eq_zero fun there => by
              rcases List.mem_cons.mp there with rfl | later
              · exact same rfl
              · exact String.lt_asymm less (ordered.before u later)
            by_cases here : v = u
            · subst here
              rw [absent, count, if_pos rfl, if_pos rfl]
            · rw [count, if_neg here, if_neg here, Nat.add_zero]
        · rw [count, ih ordered.tail, count]
          by_cases here : v = w
          · subst here
            simp [Ne.symm same]
          · simp [here]

/-- For each address the count of these matches, and nothing besides. -/
structure Tally (counts : Counts) (result : MatchResult) (ns : List Notification) : Prop where
  counted : ∀ u, counts.count u = ns.countP (·.isMatch result u)
  entries : ∀ u n, (u, n) ∈ counts ↔ 0 < n ∧ ns.countP (·.isMatch result u) = n
  distinct : (counts.map (·.1)).Nodup

theorem Ordered.tally {result : MatchResult} {ns : List Notification} (ordered : Ordered counts)
    (counted : ∀ u, counts.count u = ns.countP (·.isMatch result u)) : Tally counts result ns :=
  ⟨counted, fun u n => by rw [ordered.mem_iff, counted], ordered.distinct⟩

end Counts

namespace SessionStats

/-- Counts of these notifications since collecting started. -/
structure Observed (s : SessionStats) (ns : List Notification) : Prop where
  collecting : s.collecting = true
  allowed : s.allowed.Ordered
  blocked : s.blocked.Ordered
  allows : ∀ u, s.allowed.count u = ns.countP (·.isMatch .allowRule u)
  blocks : ∀ u, s.blocked.count u = ns.countP (·.isMatch .blockRule u)

variable {s : SessionStats} {ns : List Notification}

theorem started : Observed (start {}) [] :=
  ⟨rfl, ⟨.nil, nofun⟩, ⟨.nil, nofun⟩, fun _ => rfl, fun _ => rfl⟩

theorem Observed.observe (observed : s.Observed ns) (n : Notification) :
    (s.observe n).Observed (ns ++ [n]) := by
  obtain ⟨collecting, allowed, blocked, allows, blocks⟩ := observed
  have uncounted (allow : ∀ u, n.isMatch .allowRule u = false)
      (block : ∀ u, n.isMatch .blockRule u = false) : s.Observed (ns ++ [n]) :=
    ⟨collecting, allowed, blocked, fun u => by simp [allows, allow], fun u => by simp [blocks, block]⟩
  cases n with
  | pageAllowed event => exact uncounted (fun _ => rfl) fun _ => rfl
  | popupMatched event => exact uncounted (fun _ => rfl) fun _ => rfl
  | adMatched event =>
      simp only [SessionStats.observe, record, collecting, if_true]
      cases result : event.result with
      | noRule =>
          exact uncounted (fun _ => by simp [Notification.isMatch, result])
            fun _ => by simp [Notification.isMatch, result]
      | allowRule =>
          refine ⟨rfl, allowed.increment _, blocked, fun u => ?_, fun u => ?_⟩
          · simp [allowed.count_increment, allows, Notification.isMatch, result, List.countP_cons,
              eq_comm]
          · simp [blocks, Notification.isMatch, result]
      | blockRule =>
          refine ⟨rfl, allowed, blocked.increment _, fun u => ?_, fun u => ?_⟩
          · simp [allows, Notification.isMatch, result]
          · simp [blocked.count_increment, blocks, Notification.isMatch, result, List.countP_cons,
              eq_comm]

theorem Observed.foldl (observed : s.Observed ns) (later : List Notification) :
    (later.foldl SessionStats.observe s).Observed (ns ++ later) := by
  induction later generalizing s ns with
  | nil => rwa [List.append_nil]
  | cons n rest ih =>
      have onward := ih (observed.observe n)
      rwa [List.append_assoc] at onward

end SessionStats

end FilterDispatch
