import FilterDispatch.Scenario.Basic
import Mathlib.Data.List.Forall2

/-!
All that is wrong with a file, in the order in which it is told.  Reading a file gives back the first
of its faults; where there is none, each part was read from what stands in its place.
-/

namespace FilterDispatch.Scenario

section Reading

variable {α β : Type} {x : Except Fault α} {faults more : List Fault} {P : α → Prop} {Q : β → Prop}

/-- Something that is so comes out, or the first of the faults. -/
def Yields (x : Except Fault α) (faults : List Fault) (P : α → Prop) : Prop :=
  match x with
  | .ok a => faults = [] ∧ P a
  | .error e => faults.head? = some e

theorem Yields.ok {a : α} (holds : P a) : Yields (.ok a) [] P :=
  ⟨rfl, holds⟩

theorem Yields.bind {g : α → Except Fault β} (first : Yields x faults P)
    (rest : ∀ a, P a → Yields (g a) more Q) : Yields (x >>= g) (faults ++ more) Q := by
  cases x with
  | error e =>
      change (faults ++ more).head? = some e
      rw [List.head?_append, first]
      rfl
  | ok a =>
      obtain ⟨rfl, holds⟩ := first
      exact rest a holds

theorem Yields.map {g : α → β} (first : Yields x faults P) (keeps : ∀ a, P a → Q (g a)) :
    Yields (x >>= fun a => pure (g a)) faults Q := by
  rw [← List.append_nil faults]
  exact first.bind fun a holds => .ok (keeps a holds)

theorem Yields.mapM {γ : Type} {g : γ → Except Fault α} {faultsOf : γ → List Fault}
    {R : γ → α → Prop} (each : ∀ d, Yields (g d) (faultsOf d) (R d)) (ds : List γ) :
    Yields (ds.mapM g) (ds.flatMap faultsOf) (List.Forall₂ R ds) := by
  induction ds with
  | nil => exact .ok .nil
  | cons d rest ih =>
      rw [List.mapM_cons, List.flatMap_cons]
      exact (each d).bind fun a here => ih.map fun more there => .cons here there

theorem Yields.error_iff (yields : Yields x faults P) {e : Fault} :
    x = .error e ↔ faults.head? = some e := by
  cases x with
  | error e' =>
      change faults.head? = some e' at yields
      rw [yields, Except.error.injEq, Option.some.injEq]
  | ok a => simp [yields.1]

theorem Yields.ok_iff (yields : Yields x faults P) : (∃ a, x = .ok a) ↔ faults = [] := by
  cases x with
  | error e =>
      change faults.head? = some e at yields
      constructor
      · rintro ⟨a, same⟩
        cases same
      · rintro rfl
        cases yields
  | ok a => exact ⟨fun _ => yields.1, fun _ => ⟨a, rfl⟩⟩

theorem Yields.of_ok (yields : Yields x faults P) {a : α} (done : x = .ok a) : P a := by
  subst done
  exact yields.2

end Reading

section Faults

def urlFaults (s : String) : List Fault :=
  match Url.parse s with
  | .ok _ => []
  | .error fault => [.url s fault]

def frameIdFaults (s : String) : List Fault :=
  match FrameId.parse s with
  | .ok _ => []
  | .error fault => [.frameId fault]

/-- The id is one that was declared before, however it is written. -/
def duplicateFaults (earlier : List FrameDecl) (d : FrameDecl) : List Fault :=
  match FrameId.parse d.id with
  | .ok id => if ∃ e ∈ earlier, FrameId.parse e.id = .ok id then [.duplicateFrame id] else []
  | .error _ => []

def frameFaults (earlier : List FrameDecl) (d : FrameDecl) : List Fault :=
  frameIdFaults d.id ++ (duplicateFaults earlier d ++ (urlFaults d.url ++
    d.ancestors.flatMap urlFaults))

/-- What is wrong with frames that come after others. -/
def framesFaults (earlier ds : List FrameDecl) : List Fault :=
  (ds.mapIdx fun i d => frameFaults (earlier ++ ds.take i) d).flatten

def tableFaults (d : CollectionDecl) : List Fault :=
  (d.rewrite.flatMap fun r => urlFaults r.target) ++ urlFaults d.subscription

end Faults

namespace EventDecl

def url : EventDecl → String
  | .request url .. | .socket url _ | .response url .. | .popup url _ | .document url _
  | .rewrite url _ => url

def frame : EventDecl → String
  | .request _ _ frame | .socket _ frame | .response _ _ frame _ | .popup _ frame
  | .document _ frame | .rewrite _ frame => frame

def faults (d : EventDecl) : List Fault :=
  urlFaults d.url ++ frameIdFaults d.frame

end EventDecl

/-- Everything that is wrong with a file, what comes first in front. -/
def File.faults (f : File) : List Fault :=
  framesFaults [] f.frames ++ ((f.siteKeys.flatMap fun d => urlFaults d.page) ++
    (f.collections.flatMap tableFaults ++ f.events.flatMap EventDecl.faults))

section Parts

def IsUrl (s : String) (u : Url) : Prop :=
  Url.parse s = .ok u

def IsFrameId (s : String) (id : FrameId) : Prop :=
  FrameId.parse s = .ok id

structure IsFrame (d : FrameDecl) (f : DeclaredFrame) : Prop where
  id : IsFrameId d.id f.live.id
  url : IsUrl d.url f.live.url
  ancestors : List.Forall₂ IsUrl d.ancestors f.ancestors
  dies : f.diesAfterDispatch = d.diesAfterDispatch

structure IsSiteKey (d : SiteKeyDecl) (k : Url × SiteKey) : Prop where
  page : IsUrl d.page k.1
  key : k.2.text = d.key

structure IsRewrite (d : RewriteDecl) (r : String × Url) : Prop where
  pattern : r.1 = d.pattern
  target : IsUrl d.target r.2

structure IsTable (d : CollectionDecl) (t : Table) : Prop where
  subscription : IsUrl d.subscription t.subscription
  block : t.block = d.block
  allow : t.allow = d.allow
  rewrites : List.Forall₂ IsRewrite d.rewrite t.rewrites
  hosts : t.documentHosts = d.documentAllowHosts

inductive IsEvent : EventDecl → Event → Prop
  | request {s c i u id} : IsUrl s u → IsFrameId i id →
      IsEvent (.request s c i) (.request u (.ofToken c) id)
  | socket {s i u id} : IsUrl s u → IsFrameId i id → IsEvent (.socket s i) (.socket u id)
  | response {s c i hs u id} : IsUrl s u → IsFrameId i id →
      IsEvent (.response s c i hs) (.response u (.ofToken c) id (.ofList hs))
  | popup {s i u id} : IsUrl s u → IsFrameId i id → IsEvent (.popup s i) (.popup u id)
  | document {s i u id} : IsUrl s u → IsFrameId i id → IsEvent (.document s i) (.document u id)
  | rewrite {s i u id} : IsUrl s u → IsFrameId i id → IsEvent (.rewrite s i) (.rewrite u id)

/-- The scenario has what the file has, one for one and in its order. -/
structure File.Makes (f : File) (sc : Scenario) : Prop where
  frames : List.Forall₂ IsFrame f.frames sc.frames
  siteKeys : List.Forall₂ IsSiteKey f.siteKeys sc.siteKeys
  tables : List.Forall₂ IsTable f.collections sc.tables
  events : List.Forall₂ IsEvent f.events sc.events

end Parts

section Reads

theorem readUrl_yields (s : String) : Yields (readUrl s) (urlFaults s) (IsUrl s) := by
  rw [readUrl, urlFaults]
  cases read : Url.parse s with
  | ok u => exact .ok read
  | error fault => exact rfl

theorem readFrameId_yields (s : String) :
    Yields (readFrameId s) (frameIdFaults s) (IsFrameId s) := by
  rw [readFrameId, frameIdFaults]
  cases read : FrameId.parse s with
  | ok id => exact .ok read
  | error fault => exact rfl

def Known (earlier : List FrameDecl) (ids : List FrameId) : Prop :=
  ∀ id, id ∈ ids ↔ ∃ e ∈ earlier, FrameId.parse e.id = .ok id

theorem readFrame_yields {earlier : List FrameDecl} {ids : List FrameId} (known : Known earlier ids)
    (d : FrameDecl) : Yields (readFrame d ids) (frameFaults earlier d) (IsFrame d) := by
  rw [readFrame, frameFaults]
  refine (readFrameId_yields d.id).bind fun id read => ?_
  have duplicates : duplicateFaults earlier d = if id ∈ ids then [.duplicateFrame id] else [] := by
    rw [duplicateFaults, read]
    simp only [known id]
  rw [duplicates]
  split
  case isTrue => exact rfl
  case isFalse =>
    refine (readUrl_yields d.url).bind fun u here => ?_
    refine (Yields.mapM readUrl_yields d.ancestors).map fun us above => ?_
    exact ⟨read, here, above, rfl⟩

theorem Known.cons {earlier : List FrameDecl} {ids : List FrameId} (known : Known earlier ids)
    {d : FrameDecl} {id : FrameId} (read : IsFrameId d.id id) :
    Known (earlier ++ [d]) (id :: ids) := by
  intro i
  rw [IsFrameId] at read
  rw [List.mem_cons, known i]
  constructor
  · rintro (rfl | ⟨e, here, parsed⟩)
    · exact ⟨d, by simp, read⟩
    · exact ⟨e, List.mem_append_left _ here, parsed⟩
  · rintro ⟨e, here, parsed⟩
    obtain here | here := List.mem_append.mp here
    · exact .inr ⟨e, here, parsed⟩
    · rw [List.mem_singleton.mp here, read] at parsed
      cases parsed
      exact .inl rfl

theorem framesFaults_cons (earlier : List FrameDecl) (d : FrameDecl) (rest : List FrameDecl) :
    framesFaults earlier (d :: rest) =
      frameFaults earlier d ++ framesFaults (earlier ++ [d]) rest := by
  simp [framesFaults, List.mapIdx_cons]

theorem readFrames_yields {earlier : List FrameDecl} {ids : List FrameId} (known : Known earlier ids)
    (ds : List FrameDecl) :
    Yields (readFrames ds ids) (framesFaults earlier ds) (List.Forall₂ IsFrame ds) := by
  induction ds generalizing earlier ids with
  | nil => exact .ok .nil
  | cons d rest ih =>
      rw [readFrames, framesFaults_cons]
      refine (readFrame_yields known d).bind fun frame here => ?_
      exact (ih (known.cons here.id)).map fun frames there => .cons here there

theorem readSiteKey_yields (d : SiteKeyDecl) :
    Yields (readSiteKey d) (urlFaults d.page) (IsSiteKey d) :=
  (readUrl_yields d.page).map fun _ here => ⟨here, rfl⟩

theorem readRewrite_yields (d : RewriteDecl) :
    Yields (readRewrite d) (urlFaults d.target) (IsRewrite d) :=
  (readUrl_yields d.target).map fun _ here => ⟨rfl, here⟩

theorem readTable_yields (d : CollectionDecl) : Yields (readTable d) (tableFaults d) (IsTable d) := by
  refine (Yields.mapM readRewrite_yields d.rewrite).bind fun rewrites there => ?_
  exact (readUrl_yields d.subscription).map fun u here => ⟨here, rfl, rfl, there, rfl⟩

theorem readEvent_yields (d : EventDecl) : Yields (readEvent d) d.faults (IsEvent d) := by
  have parts {make : Url → FrameId → Event} (s i : String)
      (made : ∀ u id, IsUrl s u → IsFrameId i id → IsEvent d (make u id)) :
      Yields (do return make (← readUrl s) (← readFrameId i)) (urlFaults s ++ frameIdFaults i)
        (IsEvent d) :=
    (readUrl_yields s).bind fun u here =>
      (readFrameId_yields i).map fun id there => made u id here there
  cases d with
  | request s c i => exact parts s i fun _ _ => .request
  | socket s i => exact parts s i fun _ _ => .socket
  | response s c i hs => exact parts s i fun _ _ => .response
  | popup s i => exact parts s i fun _ _ => .popup
  | document s i => exact parts s i fun _ _ => .document
  | rewrite s i => exact parts s i fun _ _ => .rewrite

theorem ofFile_yields (f : File) : Yields (ofFile f) f.faults f.Makes := by
  have none : Known [] [] := fun id => by simp
  refine (readFrames_yields none f.frames).bind fun frames made => ?_
  refine (Yields.mapM readSiteKey_yields f.siteKeys).bind fun siteKeys keyed => ?_
  refine (Yields.mapM readTable_yields f.collections).bind fun tables listed => ?_
  exact (Yields.mapM readEvent_yields f.events).map fun events there =>
    ⟨made, keyed, listed, there⟩

end Reads

end FilterDispatch.Scenario
