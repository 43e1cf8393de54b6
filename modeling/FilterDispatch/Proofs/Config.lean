import FilterDispatch.Config
import FilterDispatch.Json.Printer
import FilterDispatch.Proofs.Json.Reading

/-!
Which settings are accepted: those whose two counts are at least one and fit a machine word, all of
them and no others.
-/

namespace FilterDispatch.Config

open Json.Reader

/-- Both counts are at least one and fit 64 bits. -/
structure InRange (c : Config) : Prop where
  concurrent : 1 ≤ c.maxConcurrent ∧ c.maxConcurrent ≤ largest64
  buffer : 1 ≤ c.commandBuffer ∧ c.commandBuffer ≤ largest64

theorem check_eq_ok {c : Config} :
    c.check = .ok () ↔ 1 ≤ c.maxConcurrent ∧ 1 ≤ c.commandBuffer := by
  simp only [check, Nat.one_le_iff_ne_zero]
  by_cases still : c.maxConcurrent = 0
  · simp [still]
  · by_cases narrow : c.commandBuffer = 0 <;> simp [still, narrow]

theorem parse_eq_ok {text : String} {c : Config} :
    parse text = .ok c ↔ whole value text = .ok c ∧ c.check = .ok () := by
  unfold parse
  cases read : whole value text with
  | error fault => simp
  | ok found =>
      cases checked : found.check with
      | error fault =>
          simp only [checked, Except.ok.injEq, reduceCtorEq, false_iff, not_and]
          rintro rfl
          simp [checked]
      | ok done =>
          simp only [checked, Except.ok.injEq]
          constructor
          · rintro rfl
            exact ⟨rfl, checked⟩
          · exact And.left

/-- Whatever was given so far fits 64 bits. -/
structure Draft.Fits (d : Draft) : Prop where
  concurrent : ∀ n ∈ d.maxConcurrent, n ≤ largest64
  buffer : ∀ n ∈ d.commandBuffer, n ≤ largest64

structure Fits (c : Config) : Prop where
  concurrent : c.maxConcurrent ≤ largest64
  buffer : c.commandBuffer ≤ largest64

theorem Draft.Fits.config {d : Draft} (fits : d.Fits) : d.config.Fits := by
  have given {n : Option Nat} {usual : Nat} (small : ∀ m ∈ n, m ≤ largest64)
      (fits : usual ≤ largest64) : n.getD usual ≤ largest64 := by
    cases n with
    | none => exact fits
    | some m => exact small m rfl
  exact ⟨given fits.concurrent (by decide), given fits.buffer (by decide)⟩

theorem returns_fieldOnce (name : String) (before : Option Nat) :
    Returns (fun after : Option Nat => ∀ n ∈ after, n ≤ largest64)
      (fieldOnce name before countValue) := by
  cases before with
  | some n => exact returns_failWithin _
  | none =>
      apply returns_bind
      intro _
      refine (returns_naturalValue "usize").bind fun n fits => returns_pure ?_
      rintro m ⟨⟩
      exact fits

theorem returns_fieldValue (name : String) {d : Draft} (fits : d.Fits) :
    Returns Draft.Fits (fieldValue name d) := by
  unfold fieldValue
  split
  · exact (returns_fieldOnce name d.maxConcurrent).bind fun after small =>
      returns_pure ⟨small, fits.buffer⟩
  · split
    · exact (returns_fieldOnce name d.commandBuffer).bind fun after small =>
        returns_pure ⟨fits.concurrent, small⟩
    · exact returns_failWithin _

theorem returns_namedValue : Returns Fits namedValue := by
  have empty : ({} : Draft).Fits := ⟨nofun, nofun⟩
  have fields := returns_fields (fun name d fits => returns_fieldValue name (d := d) fits) empty
  exact fields.bind fun d fits => returns_pure fits.config

theorem returns_listed? (position : Nat) :
    Returns (fun found : Option Nat => ∀ n ∈ found, n ≤ largest64) (listed? position countValue) := by
  apply returns_bind
  intro follows
  split
  · refine (returns_naturalValue "usize").bind fun n fits => returns_pure ?_
    rintro m ⟨⟩
    exact fits
  · exact returns_pure nofun

theorem returns_positional : Returns Fits positional := by
  refine (returns_listed? 0).bind fun first small => ?_
  cases first with
  | none => exact returns_pure ⟨by decide, by decide⟩
  | some n =>
      refine (returns_listed? 1).bind fun second small' => returns_pure ?_
      exact Draft.Fits.config ⟨small, small'⟩

theorem returns_value : Returns Fits value :=
  returns_recordValue _ returns_namedValue returns_positional

theorem inRange_of_parse {text : String} {c : Config} (accepted : parse text = .ok c) :
    c.InRange := by
  obtain ⟨read, checked⟩ := parse_eq_ok.mp accepted
  have fits := returns_value.whole read
  obtain ⟨some, room⟩ := check_eq_ok.mp checked
  exact ⟨⟨some, fits.concurrent⟩, ⟨room, fits.buffer⟩⟩

def json (c : Config) : Json :=
  .object [(bufferField, .nat c.commandBuffer), (concurrencyField, .nat c.maxConcurrent)]

theorem toList_json (c : Config) :
    c.json.compact.toList =
      '\x7b' :: (separator true ++ '"' :: (bufferField.toList ++ '"' :: ':' ::
        (Text.digits c.commandBuffer ++ (separator false ++ '"' :: (concurrencyField.toList ++ '"' ::
          ':' :: (Text.digits c.maxConcurrent ++ ['\x7d'])))))) := by
  have sorted : Json.byName (Json.compactFields
      [(bufferField, .nat c.commandBuffer), (concurrencyField, .nat c.maxConcurrent)]) =
      [(bufferField, Text.natText c.commandBuffer), (concurrencyField, Text.natText c.maxConcurrent)] := by
    have ordered : bufferField ≤ concurrencyField := by decide
    apply List.mergeSort_of_pairwise
    simpa [Json.compactFields, Json.compact] using ordered
  have quoted : Json.quote bufferField = String.ofList ('"' :: (bufferField.toList ++ ['"'])) ∧
      Json.quote concurrencyField = String.ofList ('"' :: (concurrencyField.toList ++ ['"'])) := by
    decide
  simp [json, Json.compact, sorted, quoted, Json.commaSeparated, Text.natText, separator]

theorem parse_json {c : Config} (range : c.InRange) : parse c.json.compact = .ok c := by
  have plainBuffer : Plain bufferField.toList := by decide
  have plainConcurrency : Plain concurrencyField.toList := by decide
  have comma (rest : List Char) : EndsNumber (separator false ++ '"' :: rest) := by
    rintro x ⟨⟩
    decide
  have brace : EndsNumber ['\x7d'] := by
    rintro x ⟨⟩
    decide
  have buffer (rest : List Char) (ends : EndsNumber rest) :
      Reads (fieldValue (String.ofList bufferField.toList) {})
        (':' :: (Text.digits c.commandBuffer ++ rest)) ⟨none, some c.commandBuffer⟩ rest :=
    (Reads.fieldOnce bufferField (reads_naturalValue "usize" range.buffer.2 ends)).bind (reads_pure _ _)
  have concurrent : Reads (fieldValue (String.ofList concurrencyField.toList) ⟨none, some c.commandBuffer⟩)
      (':' :: (Text.digits c.maxConcurrent ++ ['\x7d']))
      ⟨some c.maxConcurrent, some c.commandBuffer⟩ ['\x7d'] :=
    (Reads.fieldOnce concurrencyField (reads_naturalValue "usize" range.concurrent.2 brace)).bind
      (reads_pure _ _)
  have read : whole value c.json.compact = .ok c := by
    apply Reads.whole
    rw [toList_json]
    apply Reads.recordValue
    refine Reads.bind (Reads.fields ?_)
      (reads_pure (Draft.config ⟨some c.maxConcurrent, some c.commandBuffer⟩) _)
    -- The fuel is the number of characters that are left, of which each field takes some.
    refine reads_fieldsFrom_field true plainBuffer (buffer _ (comma _)) ?_
    refine reads_fieldsFrom_field false plainConcurrency concurrent ?_
    exact reads_fieldsFrom_end _ _ _ _ _
  have checked : c.check = .ok () := check_eq_ok.mpr ⟨range.concurrent.1, range.buffer.1⟩
  exact parse_eq_ok.mpr ⟨read, checked⟩

/-- Some text is accepted as these settings exactly if they are in range. -/
theorem accepted_iff {c : Config} : (∃ text, parse text = .ok c) ↔ c.InRange := by
  constructor
  · rintro ⟨text, accepted⟩
    exact inRange_of_parse accepted
  · intro range
    exact ⟨c.json.compact, parse_json range⟩

end FilterDispatch.Config
