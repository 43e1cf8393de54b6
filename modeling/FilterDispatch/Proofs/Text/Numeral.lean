import FilterDispatch.Text.Blank
import FilterDispatch.Text.Numeral
import Mathlib.Data.List.DropRight
import Mathlib.Data.List.TakeWhile
import Mathlib.Data.Nat.Digits.Defs

/-!
Which texts denote a whole number.  A numeral is an optional sign and one or more ASCII digits, which
count by their places; in a text it may stand between blanks.  A number's own digits denote it.
-/

namespace FilterDispatch.Text

def Digits (ds : List Char) : Prop :=
  ds ≠ [] ∧ ∀ d ∈ ds, d.isDigit = true

/-- What digits count in base ten, the last of them for units. -/
def placeValue (ds : List Char) : Nat :=
  Nat.ofDigits 10 (ds.reverse.map digitValue)

inductive Numeral : List Char → Int → Prop
  | bare (ds : List Char) : Digits ds → Numeral ds (placeValue ds)
  | plus (ds : List Char) : Digits ds → Numeral ('+' :: ds) (placeValue ds)
  | minus (ds : List Char) : Digits ds → Numeral ('-' :: ds) (-placeValue ds)

theorem isDigit_iff {c : Char} : c.isDigit = true ↔ 48 ≤ c.toNat ∧ c.toNat ≤ 57 := by
  simp only [Char.isDigit, Bool.and_eq_true, decide_eq_true_eq]
  exact Iff.rfl

theorem ofDigits_eq (ds : List Char) : ofDigits ds = placeValue ds := by
  rw [ofDigits, placeValue, Nat.ofDigits_eq_foldr, List.foldr_map, List.foldr_reverse]
  congr 1
  funext n d
  exact Nat.add_comm _ _

theorem readNat_eq_some {ds : List Char} {n : Nat} :
    readNat ds = some n ↔ Digits ds ∧ placeValue ds = n := by
  rw [readNat, Option.ite_none_right_eq_some, Option.some.injEq, ofDigits_eq, List.all_eq_true, Digits]

theorem Digits.head_isDigit {d : Char} {ds : List Char} (h : Digits (d :: ds)) : d.isDigit = true :=
  h.2 d List.mem_cons_self

theorem readInt_eq_some {s : List Char} {i : Int} : readInt s = some i ↔ Numeral s i := by
  constructor
  · intro read
    unfold readInt at read
    split at read <;> obtain ⟨n, found, rfl⟩ := Option.map_eq_some_iff.mp read <;>
      obtain ⟨digits, rfl⟩ := readNat_eq_some.mp found
    · exact .plus _ digits
    · exact .minus _ digits
    · exact .bare _ digits
  · rintro (⟨ds, digits⟩ | ⟨ds, digits⟩ | ⟨ds, digits⟩)
    · -- A sign is no digit, so the first two ways to read are out.
      unfold readInt
      split
      · exact absurd digits.head_isDigit (by decide)
      · exact absurd digits.head_isDigit (by decide)
      · rw [readNat_eq_some.mpr ⟨digits, rfl⟩]
        rfl
    · rw [readInt, readNat_eq_some.mpr ⟨digits, rfl⟩]
      rfl
    · rw [readInt, readNat_eq_some.mpr ⟨digits, rfl⟩]
      rfl

theorem Numeral.unique {s : List Char} {i j : Int} (first : Numeral s i) (later : Numeral s j) :
    i = j :=
  Option.some_inj.mp ((readInt_eq_some.mpr first).symm.trans (readInt_eq_some.mpr later))

section Printing

theorem digitChar_isDigit : ∀ n < 10, (digitChar n).isDigit = true := by decide

theorem digitValue_digitChar : ∀ n < 10, digitValue (digitChar n) = n := by decide

theorem digits_digits (n : Nat) : Digits (digits n) := by
  induction n using digits.induct with
  | case1 n small =>
      rw [digits, if_pos small]
      exact ⟨List.cons_ne_nil _ _, fun d here => by
        rw [List.mem_singleton.mp here]
        exact digitChar_isDigit n small⟩
  | case2 n large ih =>
      rw [digits, if_neg large]
      refine ⟨List.append_ne_nil_of_left_ne_nil ih.1 _, fun d here => ?_⟩
      obtain before | last := List.mem_append.mp here
      · exact ih.2 d before
      · rw [List.mem_singleton.mp last]
        exact digitChar_isDigit _ (Nat.mod_lt n (by decide))

theorem placeValue_snoc (ds : List Char) (d : Char) :
    placeValue (ds ++ [d]) = digitValue d + 10 * placeValue ds := by
  rw [placeValue, List.reverse_append, List.reverse_singleton, List.singleton_append, List.map_cons,
    Nat.ofDigits_cons]
  rfl

theorem placeValue_digits (n : Nat) : placeValue (digits n) = n := by
  induction n using digits.induct with
  | case1 n small =>
      rw [digits, if_pos small, ← List.nil_append [digitChar n], placeValue_snoc,
        digitValue_digitChar n small]
      rfl
  | case2 n large ih =>
      rw [digits, if_neg large, placeValue_snoc, ih, digitValue_digitChar _ (Nat.mod_lt n (by decide))]
      exact Nat.mod_add_div n 10

theorem numeral_signedDigits (i : Int) : Numeral (signedDigits i) i := by
  rw [signedDigits]
  split
  case isTrue negative =>
    have minus := Numeral.minus _ (digits_digits i.natAbs)
    rwa [placeValue_digits, Int.ofNat_natAbs_of_nonpos negative.le, Int.neg_neg] at minus
  case isFalse positive =>
    have bare := Numeral.bare _ (digits_digits i.natAbs)
    rwa [placeValue_digits, Int.natAbs_of_nonneg (Int.not_lt.mp positive)] at bare

end Printing

section Stripping

def Blanks (s : List Char) : Prop :=
  ∀ c ∈ s, isBlank c = true

theorem strip_parts (s : List Char) :
    ∃ before after, Blanks before ∧ Blanks after ∧ s = before ++ strip s ++ after := by
  refine ⟨s.takeWhile isBlank, (stripLeft s).rtakeWhile isBlank,
    fun _ here => List.mem_takeWhile_imp here, fun _ here => List.mem_rtakeWhile_imp here, ?_⟩
  have right : strip s ++ (stripLeft s).rtakeWhile isBlank = stripLeft s :=
    List.rdropWhile_append_rtakeWhile
  rw [List.append_assoc, right, stripLeft, List.takeWhile_append_dropWhile]

theorem stripLeft_pad {before m : List Char} (blanks : Blanks before)
    (solid : ∀ c ∈ m, isBlank c = false) (some : m ≠ []) (after : List Char) :
    stripLeft (before ++ m ++ after) = m ++ after := by
  obtain ⟨c, rest, rfl⟩ := List.exists_cons_of_ne_nil some
  rw [stripLeft, List.append_assoc, List.dropWhile_append_of_pos blanks]
  exact List.dropWhile_cons_of_neg (Bool.eq_false_iff.mp (solid c List.mem_cons_self))

theorem strip_pad {before m after : List Char} (blanks : Blanks before) (blanks' : Blanks after)
    (solid : ∀ c ∈ m, isBlank c = false) (some : m ≠ []) : strip (before ++ m ++ after) = m := by
  have mirrored : stripLeft (after.reverse ++ m.reverse ++ []) = m.reverse ++ [] :=
    stripLeft_pad (fun c here => blanks' c (List.mem_reverse.mp here))
      (fun c here => solid c (List.mem_reverse.mp here)) (List.reverse_ne_nil_iff.mpr some) []
  rw [strip, stripLeft_pad blanks solid some, stripRight, List.reverse_append]
  rw [List.append_nil, List.append_nil, stripLeft] at mirrored
  rw [mirrored, List.reverse_reverse]

theorem mem_strip_of_inner {left right : List Char} (b : Char) (front : ¬ Blanks left)
    (back : ¬ Blanks right) : b ∈ strip (left ++ b :: right) := by
  have kept {part : List Char} (rest : List Char) (more : ¬ Blanks part) :
      (part ++ rest).dropWhile isBlank = part.dropWhile isBlank ++ rest := by
    rw [List.dropWhile_append, if_neg]
    rwa [List.isEmpty_iff, List.dropWhile_eq_nil_iff]
  have back' : ¬ Blanks right.reverse :=
    fun blanks => back fun c here => blanks c (List.mem_reverse.mpr here)
  rw [strip, stripLeft, kept _ front, stripRight, List.reverse_append, List.reverse_cons,
    List.append_assoc, kept _ back']
  simp

theorem isBlank_of_isDigit {c : Char} (digit : c.isDigit = true) : isBlank c = false := by
  have range := isDigit_iff.mp digit
  simp only [isBlank, Bool.or_eq_false_iff, Bool.and_eq_false_iff, decide_eq_false_iff_not,
    beq_eq_false_iff_ne]
  omega

theorem Numeral.ne_nil {m : List Char} {i : Int} (numeral : Numeral m i) : m ≠ [] := by
  cases numeral with
  | bare _ digits => exact digits.1
  | plus ds _ => exact List.cons_ne_nil '+' ds
  | minus ds _ => exact List.cons_ne_nil '-' ds

theorem Numeral.chars {m : List Char} {i : Int} (numeral : Numeral m i) :
    ∀ c ∈ m, c = '+' ∨ c = '-' ∨ c.isDigit = true := by
  cases numeral with
  | bare _ digits => exact fun c here => .inr (.inr (digits.2 c here))
  | plus ds digits =>
      exact List.forall_mem_cons.mpr ⟨.inl rfl, fun c here => .inr (.inr (digits.2 c here))⟩
  | minus ds digits =>
      exact List.forall_mem_cons.mpr ⟨.inr (.inl rfl), fun c here => .inr (.inr (digits.2 c here))⟩

theorem Numeral.solid {m : List Char} {i : Int} (numeral : Numeral m i) :
    ∀ c ∈ m, isBlank c = false := by
  intro c here
  obtain rfl | rfl | digit := numeral.chars c here
  · decide
  · decide
  · exact isBlank_of_isDigit digit

theorem Numeral.colon_not_mem {m : List Char} {i : Int} (numeral : Numeral m i) : ':' ∉ m := by
  intro here
  obtain plus | minus | digit := numeral.chars ':' here
  · exact absurd plus (by decide)
  · exact absurd minus (by decide)
  · exact absurd digit (by decide)

/-- The text is a numeral with nothing but blanks around it. -/
def Reads (s : List Char) (i : Int) : Prop :=
  ∃ before m after, s = before ++ m ++ after ∧ Blanks before ∧ Blanks after ∧ Numeral m i

theorem reads_iff {s : List Char} {i : Int} : Reads s i ↔ Numeral (strip s) i := by
  constructor
  · rintro ⟨before, m, after, rfl, blanks, blanks', numeral⟩
    rwa [strip_pad blanks blanks' numeral.solid numeral.ne_nil]
  · intro numeral
    obtain ⟨before, after, blanks, blanks', parts⟩ := strip_parts s
    exact ⟨before, strip s, after, parts, blanks, blanks', numeral⟩

theorem Numeral.reads {s : List Char} {i : Int} (numeral : Numeral s i) : Reads s i :=
  ⟨[], s, [], by simp, List.forall_mem_nil _, List.forall_mem_nil _, numeral⟩

theorem Reads.unique {s : List Char} {i j : Int} (first : Reads s i) (later : Reads s j) : i = j :=
  (reads_iff.mp first).unique (reads_iff.mp later)

theorem Reads.colon_not_mem {s : List Char} {i : Int} (reads : Reads s i) : ':' ∉ s := by
  obtain ⟨before, m, after, rfl, blanks, blanks', numeral⟩ := reads
  simp only [List.mem_append, not_or]
  exact ⟨⟨fun here => absurd (blanks _ here) (by decide), numeral.colon_not_mem⟩,
    fun here => absurd (blanks' _ here) (by decide)⟩

end Stripping

end FilterDispatch.Text
