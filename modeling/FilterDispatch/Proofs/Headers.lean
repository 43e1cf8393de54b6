import FilterDispatch.Headers
import FilterDispatch.Proofs.Text.Case

/-!
Lookups of headers.  What is found under a name is what came under a name like it, be it in another
case, in the order of arrival; an empty name brings nothing.
-/

namespace FilterDispatch.Headers

open Text (SameName)

theorem entries_insertAll (h : Headers) (pairs : List (String × String)) :
    (h.insertAll pairs).entries = h.entries ++ pairs.filter (·.1 ≠ "") := by
  induction pairs generalizing h with
  | nil => simp [insertAll]
  | cons p rest ih =>
      change ((h.insert p.1 p.2).insertAll rest).entries = _
      rw [ih]
      by_cases empty : p.1 = ""
      · simp [insert, empty]
      · simp [insert, empty]

theorem insertAll_append (h : Headers) (first later : List (String × String)) :
    h.insertAll (first ++ later) = (h.insertAll first).insertAll later :=
  List.foldl_append

theorem getAll_eq (h : Headers) (name : String) :
    h.getAll name = (h.entries.filter fun p => SameName p.1 name).map (·.2) := by
  have same : (fun p : String × String => Text.sameIgnoringCase p.1 name) =
      fun p => decide (SameName p.1 name) := by
    funext p
    rw [Bool.eq_iff_iff, Text.sameName_iff, decide_eq_true_iff]
  rw [getAll, same]

theorem get?_eq (h : Headers) (name : String) : h.get? name = (h.getAll name).head? := by
  rw [get?, getAll, List.head?_map, List.head?_filter]

/-- The same is found under the names. -/
def Agree (h : Headers) (name : String) (h' : Headers) (name' : String) : Prop :=
  h'.getAll name' = h.getAll name ∧ h'.get? name' = h.get? name

theorem agree_of_getAll {h h' : Headers} {name name' : String}
    (same : h'.getAll name' = h.getAll name) : h.Agree name h' name' :=
  ⟨same, by rw [get?_eq, same, get?_eq]⟩

theorem agree_insert {name other : String} (apart : ¬ SameName name other) (h : Headers)
    (value : String) : h.Agree other (h.insert name value) other := by
  apply agree_of_getAll
  rw [insert]
  split
  · rfl
  · simp [getAll_eq, apart]

/-- The values that came under a name like this one, in the order of arrival. -/
def valuesUnder (name : String) (pairs : List (String × String)) : List String :=
  (pairs.filter fun p => p.1 ≠ "" ∧ SameName p.1 name).map (·.2)

theorem valuesUnder_cons (name : String) (p : String × String) (rest : List (String × String)) :
    valuesUnder name (p :: rest) =
      if p.1 ≠ "" ∧ SameName p.1 name then p.2 :: valuesUnder name rest
      else valuesUnder name rest := by
  simp only [valuesUnder, List.filter_cons, decide_eq_true_eq]
  split <;> rfl

theorem getAll_insertAll (pairs more : List (String × String)) (name : String) :
    ((ofList pairs).insertAll more).getAll name = valuesUnder name (pairs ++ more) := by
  rw [getAll_eq, entries_insertAll, ofList, entries_insertAll, List.nil_append, ← List.filter_append,
    List.filter_filter, valuesUnder]
  congr 2
  funext p
  rw [Bool.and_comm, Bool.decide_and]

/-- Pairs with names that are alike and the same value. -/
def SamePair (p q : String × String) : Prop :=
  SameName p.1 q.1 ∧ p.2 = q.2

theorem valuesUnder_congr {pairs pairs' : List (String × String)} {name name' : String}
    (same : List.Forall₂ SamePair pairs pairs') (alike : SameName name name') :
    valuesUnder name' pairs' = valuesUnder name pairs := by
  induction same with
  | nil => rfl
  | @cons p q rest rest' here _ ih =>
      obtain ⟨names, values⟩ := here
      have empty : q.1 = "" ↔ p.1 = "" := by
        rw [← Text.sameName_empty, ← Text.sameName_empty]
        exact ⟨names.trans, names.symm.trans⟩
      have found : SameName q.1 name' ↔ SameName p.1 name :=
        ⟨fun there => (names.trans there).trans alike.symm,
          fun there => (names.symm.trans there).trans alike⟩
      rw [valuesUnder_cons, valuesUnder_cons, ih, values]
      simp only [ne_eq, empty, found]

theorem valuesUnder_empty (pairs : List (String × String)) : valuesUnder "" pairs = [] := by
  rw [valuesUnder, List.map_eq_nil_iff, List.filter_eq_nil_iff]
  intro p _ found
  obtain ⟨named, alike⟩ := of_decide_eq_true found
  exact named (Text.sameName_empty.mp alike)

/-- What is found in headers that were collected from pairs and then given more. -/
structure Lookups (pairs more : List (String × String)) : Prop where
  all : ∀ name, ((ofList pairs).insertAll more).getAll name = valuesUnder name (pairs ++ more)
  first : ∀ name, ((ofList pairs).insertAll more).get? name =
    (((ofList pairs).insertAll more).getAll name).head?
  /-- It does not depend on the case of ASCII letters, in the pairs or in the name that is looked up. -/
  caseless : ∀ pairs' more' name name', List.Forall₂ SamePair pairs pairs' →
    List.Forall₂ SamePair more more' → SameName name name' →
    ((ofList pairs).insertAll more).Agree name ((ofList pairs').insertAll more') name'
  /-- Names with different characters outside ASCII are different names, be it only the case. -/
  outside : ∀ (name other value : String) (i : Nat) (c d : Char), name.toList[i]? = some c →
    other.toList[i]? = some d → c ≠ d → 128 ≤ c.toNat ∨ 128 ≤ d.toNat →
    ((ofList pairs).insertAll more).Agree other
      (((ofList pairs).insertAll more).insert name value) other
  nameless : ((ofList pairs).insertAll more).getAll "" = [] ∧
    ((ofList pairs).insertAll more).get? "" = none
  others : ∀ name value other, ¬ SameName name other →
    ((ofList pairs).insertAll more).Agree other
      (((ofList pairs).insertAll more).insert name value) other
  empty : ((ofList pairs).insertAll more).isEmpty = true ↔ ∀ p ∈ pairs ++ more, p.1 = ""
  parted : ofList (pairs ++ more) = (ofList pairs).insertAll more

theorem lookups_by_name (pairs more : List (String × String)) : Lookups pairs more := by
  have insert_other {name other : String} (apart : ¬ SameName name other) (value : String) :
      ((ofList pairs).insertAll more).Agree other
        (((ofList pairs).insertAll more).insert name value) other :=
    agree_insert apart _ value
  refine ⟨getAll_insertAll pairs more, get?_eq _, ?caseless, ?outside, ?nameless,
    fun _ value _ apart => insert_other apart value, ?empty, insertAll_append {} pairs more⟩
  case caseless =>
    intro pairs' more' name name' same same' alike
    apply agree_of_getAll
    rw [getAll_insertAll, getAll_insertAll]
    exact valuesUnder_congr (List.rel_append same same') alike
  case outside =>
    intro name other value i c d here there differ foreign
    refine insert_other (fun same => differ ?_) value
    obtain ⟨within, rfl⟩ := List.getElem?_eq_some_iff.mp here
    obtain ⟨within', rfl⟩ := List.getElem?_eq_some_iff.mp there
    exact (List.Forall₂.get same within within').eq_of_nonAscii foreign
  case nameless =>
    have none : ((ofList pairs).insertAll more).getAll "" = [] := by
      rw [getAll_insertAll, valuesUnder_empty]
    exact ⟨none, by rw [get?_eq, none]; rfl⟩
  case empty =>
    rw [isEmpty, entries_insertAll, ofList, entries_insertAll, List.isEmpty_iff, List.nil_append,
      ← List.filter_append, List.filter_eq_nil_iff]
    simp only [ne_eq, decide_not, Bool.not_eq_true', decide_eq_false_iff_not, not_not]

/-- A second cookie is found behind the first, and a name with another accent is another name. -/
example :
    let h : Headers := ofList [("Set-Cookie", "a"), ("", "b"), ("SET-COOKIE", "c"), ("x-É", "d")]
    (h.getAll "set-cookie", h.getAll "X-É", h.getAll "x-é") = (["a", "c"], ["d"], []) := by decide

end FilterDispatch.Headers
