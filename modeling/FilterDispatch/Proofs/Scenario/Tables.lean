import FilterDispatch.Replay.Reference

/-!
Tables as collections.  All tables of a scenario are in its snapshot, so its classifier and the
scans over its snapshot come to what the tables say in the order of their declaration.
-/

namespace FilterDispatch

namespace Scenario

theorem ownTables_map (s : Scenario) : s.ownTables.map (·.table) = s.tables := by
  refine List.ext_getElem (by simp [ownTables, declared]) fun i _ _ => ?_
  simp [ownTables, declared]

theorem holds_ownTables (s : Scenario) : s.ownTables.filter (holds s.snapshot) = s.ownTables := by
  apply List.filter_eq_self.mpr
  intro t member
  simp only [holds, snapshot, snapshotFrom, List.any_map, List.any_eq_true]
  exact ⟨t, member, decide_eq_true rfl⟩

theorem classify_own (s : Scenario) (url : Url) :
    classify s.ownTables s.snapshot url = verdict s.tables url := by
  rw [classify, verdict, holds_ownTables, ← ownTables_map]
  simp only [List.find?_map, Function.comp_def]
  cases s.ownTables.find? fun t => t.table.allows url with
  | some t => rfl
  | none =>
      cases s.ownTables.find? fun t => t.table.blocks url with
      | some t => rfl
      | none => rfl

theorem rewriteFrom_outcome (url : Url) (ancestors : List Url) (i : Nat)
    (ts : List DeclaredTable) :
    (Snapshot.rewriteFrom url ancestors i (ts.map DeclaredTable.collection)).outcome =
      .ok (rewriteTarget (ts.map (·.table)) url) := by
  induction ts generalizing i with
  | nil => rfl
  | cons t rest ih =>
      rw [List.map_cons, List.map_cons, Snapshot.rewriteFrom, rewriteTarget, List.findSome?_cons]
      have asked : (t.collection.ask i (.rewrite url ancestors)).outcome =
          .ok (t.table.rewriteTarget url) := rfl
      rw [Evaluation.andThen, asked]
      cases t.table.rewriteTarget url with
      | some target => rfl
      | none => exact ih (i + 1)

theorem firstRewriteTarget_own (s : Scenario) (url : Url) (ancestors : List Url) :
    (s.snapshot.firstRewriteTarget url ancestors).outcome = .ok (rewriteTarget s.tables url) := by
  rw [Snapshot.firstRewriteTarget, snapshot, snapshotFrom, rewriteFrom_outcome]
  exact congrArg (fun ts => Except.ok (rewriteTarget ts url)) s.ownTables_map

theorem documentFrom_outcome (url : Url) (i : Nat) (last : Option Url) (ts : List DeclaredTable) :
    (Snapshot.documentFrom url i last (ts.map DeclaredTable.collection)).outcome =
      .ok (if (ts.map (·.table)).all (·.allowsDocument url) then
        ((ts.map (·.table)).getLast?.map (·.subscription)).or last else none) := by
  induction ts generalizing i last with
  | nil => rfl
  | cons t rest ih =>
      rw [List.map_cons, List.map_cons, Snapshot.documentFrom, List.all_cons]
      have asked : (t.collection.ask i (Snapshot.documentQuery url)).outcome =
          .ok (if t.table.allowsDocument url then some t.table.subscription else none) := rfl
      rw [Evaluation.andThen, asked]
      cases t.table.allowsDocument url with
      | false => rfl
      | true =>
          simp only [if_true, Bool.true_and]
          rw [ih]
          simp only [List.getLast?_cons, Option.map_some, Option.some_or]
          cases (rest.map (·.table)).getLast? with
          | none => rfl
          | some u => rfl

theorem documentAllowlistedBy_own (s : Scenario) (url : Url) :
    (s.snapshot.documentAllowlistedBy url).outcome = .ok (documentSubscription s.tables url) := by
  rw [Snapshot.documentAllowlistedBy, snapshot, snapshotFrom, documentFrom_outcome]
  simp only [Option.or_none]
  exact congrArg (fun ts => Except.ok (documentSubscription ts url)) s.ownTables_map

end Scenario

end FilterDispatch
