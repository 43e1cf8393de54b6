import FilterDispatch.Proofs.Scenario.Tables

/-!
Hosts whose documents are allowed.  An entry stands for the host that it names and for every host below
it: whole labels count, and a host that only ends in the same characters is another one.
-/

namespace FilterDispatch

namespace Scenario

/-- The labels of a host, from left to right; one more than it has dots. -/
def labels (host : List Char) : List (List Char) :=
  host.splitOn '.'

theorem join_labels (host : List Char) : ['.'].intercalate (labels host) = host :=
  List.intercalate_splitOn '.'

theorem labels_injective {a b : List Char} (same : labels a = labels b) : a = b := by
  rw [← join_labels a, same, join_labels]

theorem labels_below (own host : List Char) :
    labels (own ++ '.' :: host) = labels own ++ labels host :=
  List.splitOnP_append_cons own host (beq_self_eq_true '.')

theorem join_append_labels {first : List (List Char)} (nonempty : first ≠ []) (host : List Char) :
    ['.'].intercalate (first ++ labels host) = ['.'].intercalate first ++ '.' :: host := by
  induction first with
  | nil => exact absurd rfl nonempty
  | cons label rest ih =>
      have more : rest ++ labels host ≠ [] :=
        List.append_ne_nil_of_right_ne_nil rest (List.splitOn_ne_nil '.' host)
      rw [List.cons_append, List.intercalate_cons_of_ne_nil more]
      cases rest with
      | nil => simp [join_labels]
      | cons next rest =>
          rw [ih (List.cons_ne_nil _ _), List.intercalate_cons_cons]
          simp

/-- Whole labels at the end are all that there is, or they follow on a dot. -/
theorem labels_suffix_iff {entry host : List Char} :
    labels entry <:+ labels host ↔ host = entry ∨ '.' :: entry <:+ host := by
  constructor
  · rintro ⟨first, split⟩
    cases first with
    | nil => exact .inl (labels_injective split.symm)
    | cons label rest =>
        refine .inr ⟨['.'].intercalate (label :: rest), ?_⟩
        rw [← join_append_labels (List.cons_ne_nil _ _), split, join_labels]
  · rintro (rfl | ⟨own, rfl⟩)
    · exact List.suffix_refl _
    · rw [labels_below]
      exact List.suffix_append _ _

namespace Table

/-- The address has a host, and the labels of an entry are the last labels of that host. -/
def Lists (t : Table) (url : Url) : Prop :=
  ∃ host, url.host? = some host ∧ ∃ entry ∈ t.documentHosts, labels entry.toList <:+ labels host

theorem coversHost_iff {entry host : List Char} :
    coversHost entry host = true ↔ labels entry <:+ labels host := by
  simp [coversHost, labels_suffix_iff]

theorem allowsDocument_iff {t : Table} {url : Url} : t.allowsDocument url = true ↔ t.Lists url := by
  unfold allowsDocument Lists
  cases url.host? with
  | none => simp
  | some host => simp [coversHost_iff]

/-- Without a dot before it an entry is no host's end, whatever characters stand there. -/
theorem not_labels_suffix {entry before : List Char} {c : Char} (other : c ≠ '.') :
    ¬ labels entry <:+ labels (before ++ c :: entry) := by
  rw [labels_suffix_iff]
  rintro (same | ⟨own, same⟩)
  · have longer := congrArg List.length same
    simp only [List.length_append, List.length_cons] at longer
    omega
  · have dot := List.append_inj_right' same rfl
    exact other (List.cons.inj dot).1.symm

theorem Lists.below {t : Table} {url deeper : Url} {own host : List Char} (lists : t.Lists url)
    (here : url.host? = some host) (there : deeper.host? = some (own ++ '.' :: host)) :
    t.Lists deeper := by
  obtain ⟨found, known, entry, member, suffix⟩ := lists
  cases here.symm.trans known
  refine ⟨_, there, entry, member, ?_⟩
  rw [labels_below]
  exact suffix.trans (List.suffix_append _ _)

end Table

/-- What a table, and the whole snapshot of a scenario, say of the document at an address. -/
structure DocumentHosts (url : Url) : Prop where
  listed : ∀ (t : DeclaredTable) ancestors siteKey,
    t.collection.answer (.special .document url ancestors siteKey) =
      .ok (some t.table.subscription) ↔ t.table.Lists url
  unlisted : ∀ (t : DeclaredTable) ancestors siteKey,
    t.collection.answer (.special .document url ancestors siteKey) = .ok none ↔ ¬ t.table.Lists url
  otherFilters : ∀ (t : DeclaredTable) filter ancestors siteKey, filter ≠ .document →
    t.collection.answer (.special filter url ancestors siteKey) = .ok none
  /-- A host that only ends in the characters of entries, with no dot before them, is another host. -/
  lookAlike : ∀ t : Table, (∀ entry ∈ t.documentHosts, ∃ before c, c ≠ '.' ∧
    url.host? = some (before ++ c :: entry.toList)) → ¬ t.Lists url
  subdomain : ∀ (t : Table) (deeper : Url) own host, url.host? = some host →
    deeper.host? = some (own ++ '.' :: host) → t.Lists url → t.Lists deeper
  snapshot : ∀ (s : Scenario) subscription,
    (s.snapshot.documentAllowlistedBy url).outcome = .ok (some subscription) ↔
      (∀ t ∈ s.tables, t.Lists url) ∧ s.tables.getLast?.map (·.subscription) = some subscription
  snapshotAllows : ∀ s : Scenario,
    (∃ subscription, (s.snapshot.documentAllowlistedBy url).outcome = .ok (some subscription)) ↔
      s.tables ≠ [] ∧ ∀ t ∈ s.tables, t.Lists url
  snapshotRefuses : ∀ s : Scenario, (s.snapshot.documentAllowlistedBy url).outcome = .ok none ↔
    ¬ (s.tables ≠ [] ∧ ∀ t ∈ s.tables, t.Lists url)

theorem documentSubscription_eq_some {tables : List Table} {url subscription : Url} :
    documentSubscription tables url = some subscription ↔
      (∀ t ∈ tables, t.Lists url) ∧ tables.getLast?.map (·.subscription) = some subscription := by
  simp [documentSubscription, Table.allowsDocument_iff]

theorem exists_documentSubscription {tables : List Table} {url : Url} :
    (∃ subscription, documentSubscription tables url = some subscription) ↔
      tables ≠ [] ∧ ∀ t ∈ tables, t.Lists url := by
  simp only [documentSubscription_eq_some]
  cases last : tables.getLast? with
  | none => simp [List.getLast?_eq_none_iff.mp last]
  | some t =>
      have nonempty : tables ≠ [] := by
        rintro rfl
        cases last
      simp [nonempty]

theorem documents_by_label (url : Url) : DocumentHosts url := by
  have asked (t : DeclaredTable) (ancestors : List Url) (siteKey : SiteKey) :
      t.collection.answer (.special .document url ancestors siteKey) =
        .ok (if t.table.allowsDocument url then some t.table.subscription else none) := rfl
  refine ⟨?listed, ?unlisted, ?otherFilters, ?lookAlike, ?subdomain, ?snapshot, ?snapshotAllows,
    ?snapshotRefuses⟩
  case listed =>
    intro t ancestors siteKey
    rw [asked, ← Table.allowsDocument_iff]
    cases t.table.allowsDocument url <;> simp
  case unlisted =>
    intro t ancestors siteKey
    rw [asked, ← Table.allowsDocument_iff]
    cases t.table.allowsDocument url <;> simp
  case otherFilters =>
    intro t filter ancestors siteKey other
    cases filter with
    | document => exact absurd rfl other
    | _ => rfl
  case lookAlike =>
    rintro t apart ⟨host, known, entry, member, suffix⟩
    obtain ⟨before, c, other, shape⟩ := apart entry member
    cases known.symm.trans shape
    exact Table.not_labels_suffix other suffix
  case subdomain => exact fun t deeper own host here there lists => lists.below here there
  case snapshot =>
    intro s subscription
    rw [documentAllowlistedBy_own, Except.ok.injEq, documentSubscription_eq_some]
  case snapshotAllows =>
    intro s
    simp only [documentAllowlistedBy_own, Except.ok.injEq, exists_documentSubscription]
  case snapshotRefuses =>
    intro s
    rw [documentAllowlistedBy_own, Except.ok.injEq, ← exists_documentSubscription,
      Option.eq_none_iff_forall_ne_some, not_exists]

/-- The host itself and those below it, but no host that looks like it. -/
example :
    let t : Table := { subscription := ⟨"https://list.example/"⟩, documentHosts := ["trusted.example"] }
    ["https://trusted.example/", "https://www.trusted.example:80/x", "https://untrusted.example/",
      "data:trusted.example"].map (fun text => t.allowsDocument ⟨text⟩) =
        [true, true, false, false] := by decide

end Scenario

end FilterDispatch
