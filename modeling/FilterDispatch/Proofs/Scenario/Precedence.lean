import FilterDispatch.Scenario.World

/-!
Precedence among tables.  A table that allows decides before all that block, and among those of one sort
the first that was declared.  A snapshot says which tables take part and nothing else: its order, its
repetitions and its collections that are none of the tables count for nothing.
-/

namespace FilterDispatch.Scenario

/-- The table is in the snapshot, wherever and however often. -/
def DeclaredTable.TakesPart (t : DeclaredTable) (s : Snapshot) : Prop :=
  ∃ c ∈ s, c.id = t.id

/-- Some pattern stands in the address. -/
def Occurs (patterns : List String) (url : Url) : Prop :=
  ∃ pattern ∈ patterns, pattern.toList <:+: url.text.toList

def DeclaredTable.Allows (s : Snapshot) (url : Url) (t : DeclaredTable) : Prop :=
  t.TakesPart s ∧ Occurs t.table.allow url

def DeclaredTable.Blocks (s : Snapshot) (url : Url) (t : DeclaredTable) : Prop :=
  t.TakesPart s ∧ Occurs t.table.block url

/-- It holds of this one and of none that was declared before it. -/
def First (P : DeclaredTable → Prop) (tables : List DeclaredTable) (t : DeclaredTable) : Prop :=
  P t ∧ ∃ before after, tables = before ++ t :: after ∧ ∀ u ∈ before, ¬ P u

/-- The rule by which tables decide. -/
inductive Ruled (tables : List DeclaredTable) (s : Snapshot) (url : Url) : Classification → Prop
  | allowed {t} : First (·.Allows s url) tables t → Ruled tables s url (.allowed t.table.subscription)
  | blocked {t} : (∀ u ∈ tables, ¬ u.Allows s url) → First (·.Blocks s url) tables t →
      Ruled tables s url (.blocked t.table.subscription)
  | ignored : (∀ u ∈ tables, ¬ u.Allows s url) → (∀ u ∈ tables, ¬ u.Blocks s url) →
      Ruled tables s url .ignored

variable {tables : List DeclaredTable} {s s' : Snapshot} {url : Url} {t : DeclaredTable}

theorem holds_iff : holds s t = true ↔ t.TakesPart s := by
  simp [holds, DeclaredTable.TakesPart]

theorem any_occursIn {patterns : List String} :
    (patterns.any fun pattern => Text.occursIn pattern url.text) = true ↔ Occurs patterns url := by
  simp [Occurs, Text.occursIn, Text.isInside_iff]

theorem allowing_iff : (holds s t && t.table.allows url) = true ↔ t.Allows s url := by
  rw [Bool.and_eq_true, holds_iff, Table.allows, any_occursIn]
  rfl

theorem blocking_iff : (holds s t && t.table.blocks url) = true ↔ t.Blocks s url := by
  rw [Bool.and_eq_true, holds_iff, Table.blocks, any_occursIn]
  rfl

theorem find?_first {p : DeclaredTable → Bool} {P : DeclaredTable → Prop}
    (decides : ∀ t, p t = true ↔ P t) : tables.find? p = some t ↔ First P tables t := by
  simp [List.find?_eq_some_iff_append, First, ← decides]

theorem find?_none {p : DeclaredTable → Bool} {P : DeclaredTable → Prop}
    (decides : ∀ t, p t = true ↔ P t) : tables.find? p = none ↔ ∀ t ∈ tables, ¬ P t := by
  simp [List.find?_eq_none, ← decides]

/-- Both searches go through the tables as they were declared. -/
theorem classify_eq (tables : List DeclaredTable) (s : Snapshot) (url : Url) :
    classify tables s url =
      match tables.find? fun t => holds s t && t.table.allows url with
      | some t => .allowed t.table.subscription
      | none =>
        match tables.find? fun t => holds s t && t.table.blocks url with
        | some t => .blocked t.table.subscription
        | none => .ignored := by
  have searched (p : DeclaredTable → Bool) :
      (tables.filter (holds s)).find? p = tables.find? fun t => holds s t && p t := by
    simp [List.find?_filter]
  have allowing := searched fun t => t.table.allows url
  have blocking := searched fun t => t.table.blocks url
  rw [← allowing, ← blocking]
  rfl

theorem classify_eq_iff {c : Classification} :
    classify tables s url = c ↔ Ruled tables s url c := by
  rw [classify_eq]
  constructor
  · rintro rfl
    cases allows : tables.find? fun t => holds s t && t.table.allows url with
    | some t => exact .allowed ((find?_first fun _ => allowing_iff).mp allows)
    | none =>
        have none := (find?_none fun _ => allowing_iff).mp allows
        cases blocks : tables.find? fun t => holds s t && t.table.blocks url with
        | some t => exact .blocked none ((find?_first fun _ => blocking_iff).mp blocks)
        | none => exact .ignored none ((find?_none fun _ => blocking_iff).mp blocks)
  · intro ruled
    cases ruled with
    | allowed first => rw [(find?_first fun _ => allowing_iff).mpr first]
    | blocked none first =>
        rw [(find?_none fun _ => allowing_iff).mpr none, (find?_first fun _ => blocking_iff).mpr first]
    | ignored none none' =>
        rw [(find?_none fun _ => allowing_iff).mpr none, (find?_none fun _ => blocking_iff).mpr none']

theorem First.exists {P : DeclaredTable → Prop} (first : First P tables t) : ∃ u ∈ tables, P u := by
  obtain ⟨holds, before, after, rfl, -⟩ := first
  exact ⟨t, by simp, holds⟩

theorem allowed_iff :
    (classify tables s url).decision = .allowed ↔ ∃ t ∈ tables, t.Allows s url := by
  have ruled : Ruled tables s url (classify tables s url) := classify_eq_iff.mp rfl
  cases h : classify tables s url <;> rw [h] at ruled <;> cases ruled
  case ignored none none' => simpa [Classification.decision] using none
  case allowed first => simpa [Classification.decision] using first.exists
  case blocked none first => simpa [Classification.decision] using none

theorem ignored_iff : (classify tables s url).decision = .ignored ↔
    ∀ t ∈ tables, ¬ t.Allows s url ∧ ¬ t.Blocks s url := by
  have ruled : Ruled tables s url (classify tables s url) := classify_eq_iff.mp rfl
  cases h : classify tables s url <;> rw [h] at ruled <;> cases ruled
  case ignored none none' =>
    simpa [Classification.decision] using fun t member => ⟨none t member, none' t member⟩
  case allowed t first =>
    obtain ⟨u, member, allows⟩ := first.exists
    simpa [Classification.decision] using ⟨u, member, fun other => absurd allows other⟩
  case blocked t none first =>
    obtain ⟨u, member, blocks⟩ := first.exists
    simpa [Classification.decision] using ⟨u, member, fun _ => blocks⟩

theorem classify_congr (same : ∀ t ∈ tables, t.TakesPart s ↔ t.TakesPart s') :
    classify tables s url = classify tables s' url := by
  have active : tables.filter (holds s) = tables.filter (holds s') :=
    List.filter_congr fun t member => by rw [Bool.eq_iff_iff, holds_iff, holds_iff, same t member]
  rw [classify, active, classify]

theorem DeclaredTable.TakesPart.mono (within : s ⊆ s') (takes : t.TakesPart s) : t.TakesPart s' := by
  obtain ⟨c, member, same⟩ := takes
  exact ⟨c, within member, same⟩

/-- What the tables decide about an address, in snapshots of all sorts. -/
structure Precedence (tables : List DeclaredTable) (url : Url) : Prop where
  ruled : ∀ s c, classify tables s url = c ↔ Ruled tables s url c
  request : ∀ s ancestors contentType siteKey,
    (engine tables).classify (.request s url ancestors contentType siteKey) =
      .ok (classify tables s url)
  response : ∀ s ancestors contentType headers,
    (engine tables).classify (.response s url ancestors contentType headers) =
      .ok (classify tables s url)
  popup : ∀ s ancestors siteKey,
    (engine tables).classify (.popup s url ancestors siteKey) = .ok (classify tables s url)
  inline : ∀ (w : World) s ancestors siteKey, w.tables = tables →
    Host.classifyInline (.popup s url ancestors siteKey) w = .ok (classify tables s url) w
  permuted : ∀ s s' : Snapshot, s.Perm s' → classify tables s url = classify tables s' url
  repeated : ∀ s s' : Snapshot, (∀ c, c ∈ s ↔ c ∈ s') →
    classify tables s url = classify tables s' url
  unknown : ∀ s others s' : Snapshot, (∀ c ∈ others, ∀ t ∈ tables, c.id ≠ t.id) →
    s'.Perm (s ++ others) → classify tables s' url = classify tables s url
  /-- However collections are added to a snapshot, tables among them, what was allowed stays so. -/
  stillAllowed : ∀ s s' : Snapshot, s ⊆ s' → (classify tables s url).decision = .allowed →
    (classify tables s' url).decision = .allowed
  stillDecided : ∀ s s' : Snapshot, s ⊆ s' → (classify tables s url).decision ≠ .ignored →
    (classify tables s' url).decision ≠ .ignored

theorem tables_decide (tables : List DeclaredTable) (url : Url) : Precedence tables url := by
  have repeated (s s' : Snapshot) (same : ∀ c, c ∈ s ↔ c ∈ s') :
      classify tables s url = classify tables s' url :=
    classify_congr fun t _ => by simp only [DeclaredTable.TakesPart, same]
  refine ⟨fun _ _ => classify_eq_iff, fun _ _ _ _ => rfl, fun _ _ _ _ => rfl, fun _ _ _ => rfl,
    ?inline, fun s s' moved => repeated s s' fun _ => moved.mem_iff, repeated, ?unknown,
    ?stillAllowed, ?stillDecided⟩
  case inline =>
    rintro w s ancestors siteKey rfl
    rfl
  case unknown =>
    intro s others s' foreign moved
    rw [repeated s' _ fun _ => moved.mem_iff]
    refine classify_congr fun t member => ?_
    constructor
    · rintro ⟨c, there, same⟩
      rcases List.mem_append.mp there with old | new
      · exact ⟨c, old, same⟩
      · exact absurd same (foreign c new t member)
    · exact .mono (List.subset_append_left s others)
  case stillAllowed =>
    intro s s' within allowed
    obtain ⟨t, member, takes, occurs⟩ := allowed_iff.mp allowed
    exact allowed_iff.mpr ⟨t, member, takes.mono within, occurs⟩
  case stillDecided =>
    intro s s' within decided ignored
    refine decided (ignored_iff.mpr fun t member => ?_)
    obtain ⟨allows, blocks⟩ := ignored_iff.mp ignored t member
    exact ⟨fun was => allows ⟨was.1.mono within, was.2⟩, fun was => blocks ⟨was.1.mono within, was.2⟩⟩

end FilterDispatch.Scenario
