import FilterDispatch.Text.Case
import Mathlib.Data.List.Forall2

/-!
Letters in two cases.  Only ASCII letters have both; names are alike if they differ in nothing but the
case of such letters.
-/

namespace FilterDispatch.Text

/-- The same character, or the two cases of one ASCII letter. -/
def SameLetter (c d : Char) : Prop :=
  c = d ∨ c.isAlpha = true ∧ d.isAlpha = true ∧ (d.toNat = c.toNat + 32 ∨ c.toNat = d.toNat + 32)

/-- Names that differ in the case of ASCII letters at most. -/
def SameName (s t : String) : Prop :=
  List.Forall₂ SameLetter s.toList t.toList

theorem toNat_toLower (c : Char) :
    c.toLower.toNat = if 65 ≤ c.toNat ∧ c.toNat ≤ 90 then c.toNat + 32 else c.toNat := by
  have capital : c.val ≥ 'A'.val ∧ c.val ≤ 'Z'.val ↔ 65 ≤ c.toNat ∧ c.toNat ≤ 90 := Iff.rfl
  unfold Char.toLower
  by_cases h : c.val ≥ 'A'.val ∧ c.val ≤ 'Z'.val
  · rw [dif_pos h, if_pos (capital.mp h)]
    have bound := (capital.mp h).2
    change (c.val + 32).toNat = c.val.toNat + 32
    rw [UInt32.toNat_add]
    change c.val.toNat ≤ 90 at bound
    exact Nat.mod_eq_of_lt (Nat.lt_of_le_of_lt (Nat.add_le_add_right bound 32) (by decide))
  · rw [dif_neg h, if_neg fun there => h (capital.mpr there)]

theorem isAlpha_iff (c : Char) : c.isAlpha = true ↔
    65 ≤ c.toNat ∧ c.toNat ≤ 90 ∨ 97 ≤ c.toNat ∧ c.toNat ≤ 122 := by
  have capital : c.isUpper = decide (65 ≤ c.toNat ∧ c.toNat ≤ 90) := rfl
  have small : c.isLower = (decide (97 ≤ c.toNat) && decide (c.toNat ≤ 122)) := rfl
  change (c.isUpper || c.isLower) = true ↔ _
  rw [capital, small, Bool.or_eq_true, Bool.and_eq_true, decide_eq_true_eq, decide_eq_true_eq,
    decide_eq_true_eq]

theorem sameLetter_iff {c d : Char} : SameLetter c d ↔ c.toLower = d.toLower := by
  rw [SameLetter, isAlpha_iff, isAlpha_iff, ← Char.toNat_inj, ← Char.toNat_inj, toNat_toLower,
    toNat_toLower]
  split <;> split <;> omega

theorem sameName_iff {s t : String} : sameIgnoringCase s t = true ↔ SameName s t := by
  have folds : SameLetter = fun c d => c.toLower = d.toLower := by
    funext c d
    exact propext sameLetter_iff
  rw [sameIgnoringCase_iff, SameName, folds, foldCase, foldCase, ← List.forall₂_eq_eq_eq,
    List.forall₂_map_left_iff, List.forall₂_map_right_iff]

instance : DecidableRel SameName :=
  fun _ _ => decidable_of_iff _ sameName_iff

theorem SameName.symm {s t : String} (same : SameName s t) : SameName t s := by
  rw [← sameName_iff, sameIgnoringCase_iff] at same ⊢
  exact same.symm

theorem SameName.trans {s t u : String} (first : SameName s t) (later : SameName t u) :
    SameName s u := by
  rw [← sameName_iff, sameIgnoringCase_iff] at first later ⊢
  exact first.trans later

theorem sameName_empty {s : String} : SameName s "" ↔ s = "" := by
  rw [SameName, String.toList_empty, List.forall₂_nil_right_iff, String.toList_eq_nil_iff]

theorem SameLetter.eq_of_nonAscii {c d : Char} (same : SameLetter c d)
    (outside : 128 ≤ c.toNat ∨ 128 ≤ d.toNat) : c = d := by
  rw [SameLetter, isAlpha_iff, isAlpha_iff] at same
  obtain equal | ⟨letter, letter', -⟩ := same
  · exact equal
  · omega

end FilterDispatch.Text
