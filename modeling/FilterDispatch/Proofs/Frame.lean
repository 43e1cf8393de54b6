import FilterDispatch.Frame
import FilterDispatch.Proofs.Text.Numeral

/-!
Which texts are frame ids.  A text is cut at its first colon, and both parts have to denote a number of
32 bits; whatever else there is, is given back with the error.  A frame id can be read back from the
text it is written as.
-/

namespace FilterDispatch.FrameId

open Text (Numeral Reads Blanks)

/-- In the range of 32 bits with a sign. -/
def Fits (i : Int) : Prop :=
  -2 ^ 31 ≤ i ∧ i ≤ 2 ^ 31 - 1

theorem fits_toInt (v : Int32) : Fits v.toInt :=
  ⟨v.le_toInt, Int.le_sub_one_of_lt v.toInt_lt⟩

theorem toInt_ofInt {i : Int} (fits : Fits i) : (Int32.ofInt i).toInt = i :=
  Int32.toInt_ofInt_of_le fits.1 (Int.lt_of_le_sub_one fits.2)

/-- The text is two numbers, each between blanks, with a colon in the middle. -/
def Spells (s : String) (process routing : Int) : Prop :=
  ∃ left right, s.toList = left ++ ':' :: right ∧ ':' ∉ left ∧ Reads left process ∧
    Reads right routing

theorem cut_eq_some {s left right : List Char} :
    cut s = some (left, right) ↔ s = left ++ ':' :: right ∧ ':' ∉ left := by
  constructor
  · intro found
    unfold cut at found
    split at found
    case h_1 rest dropped =>
      cases found
      refine ⟨?_, fun here => ?_⟩
      · rw [← dropped, List.takeWhile_append_dropWhile]
      · have other := List.mem_takeWhile_imp (p := fun c => decide (c ≠ ':')) here
        exact of_decide_eq_true other rfl
    case h_2 => cases found
  · rintro ⟨rfl, absent⟩
    have other : ∀ c ∈ left, decide (c ≠ ':') = true :=
      fun c here => decide_eq_true fun colon => absent (colon ▸ here)
    rw [cut, List.dropWhile_append_of_pos other, List.takeWhile_append_of_pos other]
    simp

theorem readInt32_eq_some {s : List Char} {v : Int32} :
    readInt32 s = some v ↔ Reads s v.toInt := by
  rw [Text.reads_iff, ← Text.readInt_eq_some]
  constructor
  · intro read
    unfold readInt32 at read
    split at read
    case h_1 i found =>
      rw [Option.ite_none_right_eq_some] at read
      obtain ⟨range, equal⟩ := read
      rw [found, ← Option.some_inj.mp equal, toInt_ofInt ⟨range.1, range.2⟩]
    case h_2 => cases read
  · intro found
    obtain ⟨low, high⟩ := fits_toInt v
    rw [readInt32, found]
    change (if _ then some (Int32.ofInt v.toInt) else none) = _
    rw [if_pos ⟨low, high⟩, Int32.ofInt_toInt]

theorem parse?_eq_some {s : String} {f : FrameId} :
    parse? s = some f ↔ Spells s f.process.toInt f.routing.toInt := by
  constructor
  · intro read
    unfold parse? at read
    split at read
    case h_1 => cases read
    case h_2 left right parts =>
      split at read
      case h_1 process routing first later =>
        cases read
        obtain ⟨text, absent⟩ := cut_eq_some.mp parts
        exact ⟨left, right, text, absent, readInt32_eq_some.mp first, readInt32_eq_some.mp later⟩
      case h_2 => cases read
  · rintro ⟨left, right, text, absent, first, later⟩
    simp only [parse?, cut_eq_some.mpr ⟨text, absent⟩, readInt32_eq_some.mpr first,
      readInt32_eq_some.mpr later]

theorem parse_eq_ok {s : String} {f : FrameId} : parse s = .ok f ↔ parse? s = some f := by
  unfold parse
  split <;> rename_i found <;> simp [found]

theorem parse_eq_error {s : String} {e : BadFrameId} :
    parse s = .error e ↔ parse? s = none ∧ e = ⟨s⟩ := by
  unfold parse
  split <;> rename_i found <;> simp [found, eq_comm]

theorem spells_text (f : FrameId) : Spells f.text f.process.toInt f.routing.toInt := by
  have first := Text.numeral_signedDigits f.process.toInt
  exact ⟨_, _, String.toList_ofList, first.colon_not_mem, first.reads,
    (Text.numeral_signedDigits f.routing.toInt).reads⟩

/-- What can be wrong with either part of a text. -/
inductive BadPart : List Char → Prop
  | empty (s : List Char) : Blanks s → BadPart s
  | sign (before after : List Char) (c : Char) : Blanks before → Blanks after → c = '+' ∨ c = '-' →
      BadPart (before ++ [c] ++ after)
  | inner (left right : List Char) (b : Char) : ¬ Blanks left → Text.isBlank b = true →
      ¬ Blanks right → BadPart (left ++ b :: right)
  | large (s : List Char) (i : Int) : Reads s i → ¬ Fits i → BadPart s

theorem BadPart.not_fits {s : List Char} {i : Int} (bad : BadPart s) (reads : Reads s i) :
    ¬ Fits i := by
  cases bad with
  | empty s blanks =>
      obtain ⟨before, m, after, rfl, -, -, numeral⟩ := reads
      obtain ⟨c, rest, rfl⟩ := List.exists_cons_of_ne_nil numeral.ne_nil
      have blank := blanks c (by simp)
      exact absurd blank (Bool.eq_false_iff.mp (numeral.solid c List.mem_cons_self))
  | sign before after c blanks blanks' sign =>
      rw [Text.reads_iff, Text.strip_pad blanks blanks' _ (List.cons_ne_nil c []),
        ← Text.readInt_eq_some] at reads
      · obtain rfl | rfl := sign <;> exact absurd reads (by simp [Text.readInt, Text.readNat])
      · rw [List.forall_mem_singleton]
        obtain rfl | rfl := sign <;> decide
  | inner left right b front blank back =>
      have solid := (Text.reads_iff.mp reads).solid b (Text.mem_strip_of_inner b front back)
      exact absurd blank (Bool.eq_false_iff.mp solid)
  | large s i' reads' large => rwa [reads.unique reads']

def Spelled (s : String) : Prop :=
  ∃ process routing, Spells s process routing ∧ Fits process ∧ Fits routing

theorem parse_of_not_spelled {s : String} (bad : ¬ Spelled s) : parse s = .error ⟨s⟩ := by
  rw [parse_eq_error, Option.eq_none_iff_forall_ne_some]
  refine ⟨fun f read => bad ?_, rfl⟩
  exact ⟨_, _, parse?_eq_some.mp read, fits_toInt _, fits_toInt _⟩

theorem Spells.count {s : String} {process routing : Int} (spells : Spells s process routing) :
    s.toList.count ':' = 1 := by
  obtain ⟨left, right, text, absent, -, later⟩ := spells
  rw [text, List.count_append, List.count_cons_self, List.count_eq_zero.mpr absent,
    List.count_eq_zero.mpr (later.colon_not_mem)]

theorem parse_text (f : FrameId) : parse f.text = .ok f :=
  parse_eq_ok.mpr (parse?_eq_some.mpr (spells_text f))

/-- How frame ids are read and written. -/
structure TextFormat : Prop where
  accepted : ∀ s f, parse s = .ok f ↔ ∃ process routing, Spells s process routing ∧ Fits process ∧
    Fits routing ∧ f.process.toInt = process ∧ f.routing.toInt = routing
  refused : ∀ s e, parse s = .error e ↔ ¬ Spelled s ∧ e = ⟨s⟩
  colons : ∀ s, s.toList.count ':' ≠ 1 → parse s = .error ⟨s⟩
  parts : ∀ s left right, s.toList = left ++ ':' :: right → BadPart left ∨ BadPart right →
    parse s = .error ⟨s⟩
  written : ∀ f, parse f.text = .ok f
  distinct : ∀ f g : FrameId, f.text = g.text → f = g
  again : ∀ s f, parse s = .ok f → parse f.text = parse s

theorem text_format : TextFormat := by
  refine ⟨?accepted, ?refused, ?colons, ?parts, parse_text, ?distinct, ?again⟩
  case accepted =>
    intro s f
    rw [parse_eq_ok, parse?_eq_some]
    constructor
    · exact fun spells => ⟨_, _, spells, fits_toInt _, fits_toInt _, rfl, rfl⟩
    · rintro ⟨_, _, spells, -, -, rfl, rfl⟩
      exact spells
  case refused =>
    intro s e
    constructor
    · intro failed
      obtain ⟨none, rfl⟩ := parse_eq_error.mp failed
      refine ⟨?_, rfl⟩
      rintro ⟨process, routing, spells, fits, fits'⟩
      rw [← toInt_ofInt fits, ← toInt_ofInt fits'] at spells
      have read := parse?_eq_some (f := ⟨Int32.ofInt process, Int32.ofInt routing⟩).mpr spells
      rw [none] at read
      cases read
    · rintro ⟨bad, rfl⟩
      exact parse_of_not_spelled bad
  case colons =>
    intro s several
    refine parse_of_not_spelled ?_
    rintro ⟨process, routing, spells, -, -⟩
    exact several spells.count
  case parts =>
    intro s left right text bad
    refine parse_of_not_spelled ?_
    rintro ⟨process, routing, spells, fits, fits'⟩
    have once := spells.count
    obtain ⟨left', right', text', absent', reads, reads'⟩ := spells
    have absent : ':' ∉ left := by
      rw [text, List.count_append, List.count_cons_self] at once
      exact List.count_eq_zero.mp (by omega)
    have parted := (cut_eq_some.mpr ⟨text, absent⟩).symm.trans (cut_eq_some.mpr ⟨text', absent'⟩)
    cases parted
    obtain bad | bad := bad
    · exact bad.not_fits reads fits
    · exact bad.not_fits reads' fits'
  case distinct =>
    intro f g same
    have read := parse_text f
    rw [same, parse_text g] at read
    cases read
    rfl
  case again =>
    intro s f read
    rw [read, parse_text]

example : parse "-2147483648: +02147483647" = .ok ⟨Int32.minValue, Int32.maxValue⟩ := by decide

end FilterDispatch.FrameId
