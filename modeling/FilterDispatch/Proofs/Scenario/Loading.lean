import FilterDispatch.Proofs.Scenario.Faults
import FilterDispatch.Proofs.Scenario.Frames

/-!
Loading a scenario.  It is loaded whole or not at all: if all its parts can be read and no frame is
declared twice it is what the file says, and its frames are found under their own ids; if not there is
the first of the faults.
-/

namespace FilterDispatch.Scenario

/-- Every part can be read, and no two frames have one id. -/
structure File.Sound (f : File) : Prop where
  ids : ∀ d ∈ f.frames, ∃ id, IsFrameId d.id id
  distinct : f.frames.Pairwise fun d e => ∀ id, IsFrameId d.id id → ¬ IsFrameId e.id id
  urls : ∀ d ∈ f.frames, ∃ u, IsUrl d.url u
  ancestors : ∀ d ∈ f.frames, ∀ s ∈ d.ancestors, ∃ u, IsUrl s u
  pages : ∀ d ∈ f.siteKeys, ∃ u, IsUrl d.page u
  targets : ∀ d ∈ f.collections, ∀ r ∈ d.rewrite, ∃ u, IsUrl r.target u
  subscriptions : ∀ d ∈ f.collections, ∃ u, IsUrl d.subscription u
  eventUrls : ∀ d ∈ f.events, ∃ u, IsUrl d.url u
  eventFrames : ∀ d ∈ f.events, ∃ id, IsFrameId d.frame id

section Faultless

theorem urlFaults_eq_nil {s : String} : urlFaults s = [] ↔ ∃ u, IsUrl s u := by
  unfold urlFaults IsUrl
  split <;> rename_i read <;> simp [read]

theorem frameIdFaults_eq_nil {s : String} : frameIdFaults s = [] ↔ ∃ id, IsFrameId s id := by
  unfold frameIdFaults IsFrameId
  split <;> rename_i read <;> simp [read]

theorem duplicateFaults_eq_nil {earlier : List FrameDecl} {d : FrameDecl} :
    duplicateFaults earlier d = [] ↔ ∀ e ∈ earlier, ∀ id, IsFrameId e.id id → ¬ IsFrameId d.id id := by
  unfold duplicateFaults IsFrameId
  split
  case h_1 id read =>
    rw [read, ite_eq_right_iff]
    constructor
    · intro single e here id' parsed same
      cases same
      cases single ⟨e, here, parsed⟩
    · rintro apart ⟨e, here, parsed⟩
      exact absurd rfl (apart e here id parsed)
  case h_2 fault read => simp [read]

/-- The frame can be read, apart from others. -/
structure FrameDecl.Sound (d : FrameDecl) : Prop where
  id : ∃ id, IsFrameId d.id id
  url : ∃ u, IsUrl d.url u
  ancestors : ∀ s ∈ d.ancestors, ∃ u, IsUrl s u

theorem frameFaults_eq_nil {earlier : List FrameDecl} {d : FrameDecl} :
    frameFaults earlier d = [] ↔
      d.Sound ∧ ∀ e ∈ earlier, ∀ id, IsFrameId e.id id → ¬ IsFrameId d.id id := by
  simp only [frameFaults, List.append_eq_nil_iff, List.flatMap_eq_nil_iff, frameIdFaults_eq_nil,
    urlFaults_eq_nil, duplicateFaults_eq_nil]
  constructor
  · rintro ⟨id, single, url, ancestors⟩
    exact ⟨⟨id, url, ancestors⟩, single⟩
  · rintro ⟨⟨id, url, ancestors⟩, single⟩
    exact ⟨id, single, url, ancestors⟩

theorem framesFaults_eq_nil {earlier ds : List FrameDecl} :
    framesFaults earlier ds = [] ↔ (∀ d ∈ ds, d.Sound) ∧
      (ds.Pairwise fun d e => ∀ id, IsFrameId d.id id → ¬ IsFrameId e.id id) ∧
      ∀ e ∈ earlier, ∀ d ∈ ds, ∀ id, IsFrameId e.id id → ¬ IsFrameId d.id id := by
  induction ds generalizing earlier with
  | nil => simp [framesFaults]
  | cons d rest ih =>
      simp only [framesFaults_cons, List.append_eq_nil_iff, frameFaults_eq_nil, ih, List.forall_mem_cons,
        List.pairwise_cons, List.forall_mem_append]
      constructor
      · rintro ⟨⟨here, before⟩, there, distinct, outside, behind, -⟩
        exact ⟨⟨here, there⟩, ⟨behind, distinct⟩, fun e early => ⟨before e early, outside e early⟩⟩
      · rintro ⟨⟨here, there⟩, ⟨behind, distinct⟩, before⟩
        exact ⟨⟨here, fun e early => (before e early).1⟩, there, distinct,
          fun e early => (before e early).2, behind, List.forall_mem_nil _⟩

theorem File.faults_eq_nil {f : File} : f.faults = [] ↔ f.Sound := by
  simp only [File.faults, List.append_eq_nil_iff, List.flatMap_eq_nil_iff, framesFaults_eq_nil,
    tableFaults, EventDecl.faults, urlFaults_eq_nil, frameIdFaults_eq_nil]
  constructor
  · rintro ⟨⟨frames, distinct, -⟩, pages, tables, events⟩
    exact ⟨fun d here => (frames d here).id, distinct, fun d here => (frames d here).url,
      fun d here => (frames d here).ancestors, pages, fun d here => (tables d here).1,
      fun d here => (tables d here).2, fun d here => (events d here).1,
      fun d here => (events d here).2⟩
  · intro sound
    refine ⟨⟨fun d here => ?_, sound.distinct, by simp⟩, sound.pages, fun d here => ?_,
      fun d here => ?_⟩
    · exact ⟨sound.ids d here, sound.urls d here, sound.ancestors d here⟩
    · exact ⟨sound.targets d here, sound.subscriptions d here⟩
    · exact ⟨sound.eventUrls d here, sound.eventFrames d here⟩

end Faultless

section Finding

/-- In the table the frame is found under its id, with its own URL and ancestors, the latter also once
it was looked up. -/
structure Found (t : FrameTable) (id : FrameId) (url : Url) (above : List Url) : Prop where
  live : (t.resolve id).1 = some ⟨id, url⟩
  ancestors : t.ancestors id = above
  later : (t.resolve id).2.ancestors id = above

/-- The frames of the file and no others are found. -/
structure File.Finds (f : File) (t : FrameTable) : Prop where
  declared : ∀ d ∈ f.frames, ∀ id, IsFrameId d.id id →
    ∃ u us, Found t id u us ∧ IsUrl d.url u ∧ List.Forall₂ IsUrl d.ancestors us
  others : ∀ id, (∀ d ∈ f.frames, ¬ IsFrameId d.id id) →
    t.resolve id = (none, t) ∧ t.ancestors id = []

theorem found_of_find? {frames : List DeclaredFrame} {id : FrameId} {frame : DeclaredFrame}
    (there : frames.find? (fun f => f.live.id = id) = some frame) :
    Found (.ofDeclared frames) id frame.live.url frame.ancestors := by
  have own : frame.live.id = id := by simpa using List.find?_some there
  have listed : (FrameTable.ofDeclared frames).find? id = some { frame } := by
    rw [FrameTable.find?_ofDeclared, there]
    rfl
  have resolved := FrameTable.resolve_fresh listed rfl
  refine ⟨?_, ?_, ?_⟩
  · rw [resolved, ← own]
  · rw [FrameTable.ancestors, listed]
  · rw [resolved, FrameTable.ancestors, FrameTable.find?_mark, listed]
    simp

theorem find?_declared {ds : List FrameDecl} {frames : List DeclaredFrame} {d : FrameDecl}
    {id : FrameId} (made : List.Forall₂ IsFrame ds frames)
    (distinct : ds.Pairwise fun d e => ∀ id, IsFrameId d.id id → ¬ IsFrameId e.id id) (here : d ∈ ds)
    (read : IsFrameId d.id id) :
    ∃ frame, frames.find? (fun f => f.live.id = id) = some frame ∧ IsFrame d frame := by
  induction made with
  | nil => cases here
  | @cons e frame rest frames own _ ih =>
      obtain ⟨behind, distinct⟩ := List.pairwise_cons.mp distinct
      by_cases same : frame.live.id = id
      · refine ⟨frame, List.find?_cons_of_pos (decide_eq_true same), ?_⟩
        obtain rfl | later := List.mem_cons.mp here
        · exact own
        · exact absurd read (behind d later id (same ▸ own.id))
      · obtain rfl | later := List.mem_cons.mp here
        · exact absurd (Except.ok.inj (own.id.symm.trans read)) same
        · rw [List.find?_cons_of_neg (by simpa using same)]
          exact ih distinct later

theorem find?_undeclared {ds : List FrameDecl} {frames : List DeclaredFrame} {id : FrameId}
    (made : List.Forall₂ IsFrame ds frames) (other : ∀ d ∈ ds, ¬ IsFrameId d.id id) :
    frames.find? (fun f => f.live.id = id) = none := by
  induction made with
  | nil => rfl
  | @cons d frame rest frames own _ ih =>
      obtain ⟨here, there⟩ := List.forall_mem_cons.mp other
      have apart : frame.live.id ≠ id := fun same => here (same ▸ own.id)
      rw [List.find?_cons_of_neg (by simpa using apart)]
      exact ih there

theorem File.Makes.finds {f : File} {sc : Scenario} (makes : f.Makes sc) (sound : f.Sound) :
    f.Finds sc.frameTable := by
  constructor
  · intro d here id read
    obtain ⟨frame, there, own⟩ := find?_declared makes.frames sound.distinct here read
    exact ⟨_, _, found_of_find? there, own.url, own.ancestors⟩
  · intro id other
    have none : sc.frameTable.find? id = none := by
      rw [frameTable, FrameTable.find?_ofDeclared, find?_undeclared makes.frames other]
      rfl
    exact ⟨by rw [FrameTable.resolve, none], by rw [FrameTable.ancestors, none]⟩

end Finding

/-- What becomes of a file when it is loaded. -/
structure Loading (f : File) (loaded : Except Fault Scenario) : Prop where
  succeeds : (∃ sc, loaded = .ok sc) ↔ f.Sound
  makes : ∀ sc, loaded = .ok sc → f.Makes sc ∧ f.Finds sc.frameTable
  fails : ∀ e, loaded = .error e ↔ f.faults.head? = some e

theorem ofFile_loading (f : File) : Loading f (ofFile f) := by
  have yields := ofFile_yields f
  refine ⟨?succeeds, ?makes, fun e => yields.error_iff⟩
  case succeeds => rw [yields.ok_iff, File.faults_eq_nil]
  case makes =>
    intro sc done
    have makes := yields.of_ok done
    exact ⟨makes, makes.finds (File.faults_eq_nil.mp (yields.ok_iff.mp ⟨sc, done⟩))⟩

theorem parse_loading {s : String} {f : File} (read : File.parse s = .ok f) :
    Loading f (Scenario.parse s) := by
  have same : Scenario.parse s = ofFile f := by
    rw [Scenario.parse, read]
    rfl
  rw [same]
  exact ofFile_loading f

/-- Two frames with one id that is written in two ways, the latter without an address. -/
def twoSpellings : String :=
  "\x7b\"frames\": [\x7b\"id\": \"1:1\", \"url\": \"https://a.b/\"\x7d, " ++
    "\x7b\"id\": \" +1:01\", \"url\": \"?\"\x7d]\x7d"

def twoSpellingsFile : File where
  frames := [{ id := "1:1", url := "https://a.b/" }, { id := " +1:01", url := "?" }]

theorem parse_twoSpellings : File.parse twoSpellings = .ok twoSpellingsFile ∧
    Loading twoSpellingsFile (Scenario.parse twoSpellings) ∧
    Scenario.parse twoSpellings = .error (.duplicateFrame ⟨1, 1⟩) := by
  have read : File.parse twoSpellings = .ok twoSpellingsFile := rfl
  have loading := parse_loading read
  exact ⟨read, loading, (loading.fails _).mpr rfl⟩

end FilterDispatch.Scenario
