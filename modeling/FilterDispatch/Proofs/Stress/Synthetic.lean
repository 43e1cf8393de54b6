import FilterDispatch.Proofs.Frame
import FilterDispatch.Proofs.Scenario.Loading
import FilterDispatch.Proofs.Scenario.Tables
import FilterDispatch.Proofs.Url.Plain
import FilterDispatch.Stress.Synthetic

/-!
The requests that are made up.  As many frames as there are 32-bit numbers for are declared one for
one; beyond that the first one too many is at fault.  Every fourth address is one that the only table
blocks, and it lets none of them pass.
-/

namespace FilterDispatch.Stress

open Scenario (File FrameDecl IsFrameId IsUrl DeclaredFrame Table)
open Url (Plain PlainHost PlainSegment plainText)

section Addresses

def hostName (stem : List Char) (n : Nat) : List Char :=
  stem ++ Text.digits n ++ '.' :: ['e', 'x', 'a', 'm', 'p', 'l', 'e']

theorem plain_digits (n : Nat) : Plain (Text.digits n) := by
  intro c here
  have range := Text.isDigit_iff.mp ((Text.digits_digits n).2 c here)
  exact Url.isPlain_iff.mpr (.inr (.inl range))

theorem plain_append {s t : List Char} (first : Plain s) (later : Plain t) : Plain (s ++ t) :=
  List.forall_mem_append.mpr ⟨first, later⟩

theorem endsInNumber_hostName (stem : List Char) (n : Nat) :
    Url.Ipv4.endsInNumber (hostName stem n) = false := by
  have pieces : Url.Ipv4.pieces (hostName stem n) =
      Url.Ipv4.pieces (stem ++ Text.digits n) ++ [['e', 'x', 'a', 'm', 'p', 'l', 'e']] :=
    List.splitOnP_append_cons _ _ (beq_self_eq_true '.')
  rw [Url.Ipv4.endsInNumber, pieces, List.reverse_append, List.reverse_singleton,
    List.singleton_append]
  rfl

theorem plainHost_hostName {stem : List Char} (plain : Plain stem) (n : Nat) :
    PlainHost (hostName stem n) := by
  refine ⟨?_, ?_, endsInNumber_hostName stem n⟩
  · exact plain_append (plain_append plain (plain_digits n)) (by decide)
  · exact List.append_ne_nil_of_right_ne_nil _ (List.cons_ne_nil _ _)

def site : List Char := ['s', 'i', 't', 'e']

def frameFile : List Char := ['f', 'r', 'a', 'm', 'e', '.', 'h', 't', 'm', 'l']

theorem siteText_eq (r : Nat) : siteText r = String.ofList (plainText (hostName site r) [[]]) := by
  rw [← String.toList_inj]
  unfold siteText
  simp [Text.natText, plainText, Url.secure, hostName, site]

theorem siteText_parse (r : Nat) : IsUrl (siteText r) ⟨siteText r⟩ := by
  rw [siteText_eq]
  exact Url.parse_plain (plainHost_hostName (by decide) r) (List.cons_ne_nil _ _)
    (List.forall_mem_singleton.mpr (by decide))

theorem frameText_parse (r : Nat) :
    IsUrl (siteText r ++ "frame.html") ⟨siteText r ++ "frame.html"⟩ := by
  have text : siteText r ++ "frame.html" =
      String.ofList (plainText (hostName site r) [frameFile]) := by
    rw [← String.toList_inj]
    unfold siteText
    simp [Text.natText, plainText, Url.secure, hostName, site, frameFile]
  rw [text]
  exact Url.parse_plain (plainHost_hostName (by decide) r) (List.cons_ne_nil _ _)
    (List.forall_mem_singleton.mpr (by decide))

/-- What comes before the number in the path of a request. -/
def folders (n : Nat) : List (List Char) :=
  if n % 4 = 0 then [['a', 'd', 's'], ['b', 'a', 'n', 'n', 'e', 'r']]
  else [['s', 't', 'a', 't', 'i', 'c'], ['i', 'm', 'g']]

def fileName (n : Nat) : List Char :=
  Text.digits n ++ ['.', 'p', 'n', 'g']

theorem urlText_eq (n : Nat) : urlText n =
    String.ofList (plainText (hostName ['c', 'd', 'n'] (n % 16)) (folders n ++ [fileName n])) := by
  rw [← String.toList_inj]
  unfold folders urlText
  split <;> simp [Text.natText, plainText, Url.secure, hostName, fileName]

theorem plainSegment_fileName (n : Nat) : PlainSegment (fileName n) := by
  have long : 4 < (fileName n).length := by
    have some := List.length_pos_of_ne_nil (Text.digits_digits n).1
    simp only [fileName, List.length_append, List.length_cons, List.length_nil]
    omega
  refine ⟨plain_append (plain_digits n) (by decide), ?_, ?_⟩ <;>
    exact fun same => absurd (same ▸ long) (by decide)

theorem urlText_parse (n : Nat) : url n = .ok ⟨urlText n⟩ := by
  rw [url, urlText_eq]
  refine Url.parse_plain (plainHost_hostName (by decide) _) ?_ ?_
  · exact List.append_ne_nil_of_right_ne_nil _ (List.cons_ne_nil _ _)
  · rw [List.forall_mem_append, List.forall_mem_singleton]
    refine ⟨?_, plainSegment_fileName n⟩
    unfold folders
    split <;> decide

end Addresses

section Frames

theorem frameId_text {r : Nat} (fits : r < 2 ^ 31) :
    FrameId.text ⟨1, Int32.ofNat r⟩ = (frameDecl r).id := by
  have digits : Text.signedDigits (Int32.ofNat r).toInt = Text.digits r := by
    rw [Int32.toInt_ofNat_of_lt fits, Text.signedDigits, if_neg (Int.not_lt.mpr (Int.natCast_nonneg r)),
      Int.natAbs_natCast]
  have one : Text.signedDigits (1 : Int32).toInt = ['1'] := by decide +kernel
  rw [← String.toList_inj, FrameId.text, digits, one]
  simp [frameDecl, Text.natText]

theorem frameId_parse {r : Nat} (fits : r < 2 ^ 31) :
    IsFrameId (frameDecl r).id ⟨1, Int32.ofNat r⟩ := by
  rw [← frameId_text fits]
  exact FrameId.parse_text _

theorem frameId_large : FrameId.parse (frameDecl (2 ^ 31)).id = .error ⟨"1:2147483648"⟩ := by
  have text : (frameDecl (2 ^ 31)).id = "1:2147483648" := by decide +kernel
  rw [text]
  decide

def frame (r : Nat) : DeclaredFrame where
  live := ⟨⟨1, Int32.ofNat r⟩, ⟨siteText r ++ "frame.html"⟩⟩
  ancestors := [⟨siteText r⟩]

def table : Table where
  subscription := ⟨"https://easylist.com/list.txt"⟩
  block := ["/ads/"]
  allow := ["/ads/acceptable/"]

def synthetic (frames : Nat) : Scenario where
  frames := (List.range frames).map frame
  tables := [table]

theorem subscription_parse : IsUrl collectionDecl.subscription table.subscription := by
  let name : List Char := ['e', 'a', 's', 'y', 'l', 'i', 's', 't', '.', 'c', 'o', 'm']
  let file : List Char := ['l', 'i', 's', 't', '.', 't', 'x', 't']
  have host : PlainHost name := ⟨by decide, by decide, by decide⟩
  have text : "https://easylist.com/list.txt" = String.ofList (plainText name [file]) := by decide
  have read : IsUrl (String.ofList (plainText name [file])) ⟨String.ofList (plainText name [file])⟩ :=
    Url.parse_plain host (List.cons_ne_nil _ _) (List.forall_mem_singleton.mpr (by decide))
  rwa [← text] at read

theorem frameId_unique {r : Nat} (fits : r < 2 ^ 31) {id : FrameId}
    (read : IsFrameId (frameDecl r).id id) : id = ⟨1, Int32.ofNat r⟩ :=
  Except.ok.inj (read.symm.trans (frameId_parse fits))

theorem frames_sound {frames : Nat} (fits : frames ≤ 2 ^ 31) :
    (∀ d ∈ (file frames).frames, d.Sound) ∧
      (file frames).frames.Pairwise fun d e => ∀ id, IsFrameId d.id id → ¬ IsFrameId e.id id := by
  constructor
  · intro d here
    obtain ⟨r, within, rfl⟩ := List.mem_map.mp here
    have small := Nat.lt_of_lt_of_le (List.mem_range.mp within) fits
    exact ⟨⟨_, frameId_parse small⟩, ⟨_, frameText_parse r⟩,
      List.forall_mem_singleton.mpr ⟨_, siteText_parse r⟩⟩
  · refine List.pairwise_map.mpr (List.pairwise_lt_range.imp_of_mem ?_)
    intro q r first later less id read read'
    have small := Nat.lt_of_lt_of_le (List.mem_range.mp first) fits
    have small' := Nat.lt_of_lt_of_le (List.mem_range.mp later) fits
    have same := (frameId_unique small read).symm.trans (frameId_unique small' read')
    have equal := congrArg (fun id => id.routing.toInt) same
    simp only [Int32.toInt_ofNat_of_lt small, Int32.toInt_ofNat_of_lt small'] at equal
    omega

theorem file_sound {frames : Nat} (fits : frames ≤ 2 ^ 31) : (file frames).Sound := by
  obtain ⟨sound, distinct⟩ := frames_sound fits
  have one {P : Scenario.CollectionDecl → Prop} (own : P collectionDecl) :
      ∀ d ∈ (file frames).collections, P d := List.forall_mem_singleton.mpr own
  exact ⟨fun d here => (sound d here).id, distinct, fun d here => (sound d here).url,
    fun d here => (sound d here).ancestors, List.forall_mem_nil _, one (List.forall_mem_nil _),
    one ⟨_, subscription_parse⟩, List.forall_mem_nil _, List.forall_mem_nil _⟩

theorem eq_map_of_forall₂ {α β : Type} {R : α → β → Prop} {g : α → β} {l : List α} {m : List β}
    (related : List.Forall₂ R l m) (determined : ∀ a ∈ l, ∀ b, R a b → b = g a) : m = l.map g := by
  induction related with
  | nil => rfl
  | @cons a b l m here _ ih =>
      obtain ⟨own, later⟩ := List.forall_mem_cons.mp determined
      rw [List.map_cons, own b here, ih later]

theorem isFrame_unique {r : Nat} (fits : r < 2 ^ 31) {f : DeclaredFrame}
    (made : Scenario.IsFrame (frameDecl r) f) : f = frame r := by
  obtain ⟨⟨id, u⟩, above, dies⟩ := f
  obtain ⟨own, url, ancestors, lasts⟩ := made
  have named : id = ⟨1, Int32.ofNat r⟩ := frameId_unique fits own
  have placed : u = ⟨siteText r ++ "frame.html"⟩ :=
    Except.ok.inj (url.symm.trans (frameText_parse r))
  have nested : above = [⟨siteText r⟩] :=
    eq_map_of_forall₂ (g := Url.mk) ancestors <| List.forall_mem_singleton.mpr fun u read =>
      Except.ok.inj (read.symm.trans (siteText_parse r))
  subst named placed nested
  cases lasts
  rfl

theorem isTable_unique {t : Table} (made : Scenario.IsTable collectionDecl t) : t = table := by
  obtain ⟨_, _, _, _, _⟩ := t
  obtain ⟨url, block, allow, rewrites, hosts⟩ := made
  cases Except.ok.inj (url.symm.trans subscription_parse)
  cases block
  cases allow
  cases rewrites
  cases hosts
  rfl

theorem scenario_eq {frames : Nat} (fits : frames ≤ 2 ^ 31) :
    scenario frames = .ok (synthetic frames) := by
  have loading := Scenario.ofFile_loading (file frames)
  obtain ⟨s, loaded⟩ := loading.succeeds.mpr (file_sound fits)
  have makes := (loading.makes s loaded).1
  have listed : s.frames = (List.range frames).map frame :=
    eq_map_of_forall₂ (List.forall₂_map_left_iff.mp makes.frames) fun r within f made =>
      isFrame_unique (Nat.lt_of_lt_of_le (List.mem_range.mp within) fits) made
  have tables : s.tables = [table] :=
    eq_map_of_forall₂ (g := fun _ => table) makes.tables <|
      List.forall_mem_singleton.mpr fun _ => isTable_unique
  have keys : s.siteKeys = [] := List.forall₂_nil_left_iff.mp makes.siteKeys
  have events : s.events = [] := List.forall₂_nil_left_iff.mp makes.events
  rw [scenario, loaded, synthetic, ← listed, ← tables]
  obtain ⟨_, _, _, _⟩ := s
  cases keys
  cases events
  rfl

theorem framesFaults_append (earlier first later : List FrameDecl) :
    Scenario.framesFaults earlier (first ++ later) =
      Scenario.framesFaults earlier first ++ Scenario.framesFaults (earlier ++ first) later := by
  induction first generalizing earlier with
  | nil => simp [Scenario.framesFaults]
  | cons d rest ih =>
      rw [List.cons_append, Scenario.framesFaults_cons, Scenario.framesFaults_cons, ih]
      simp

theorem scenario_large {frames : Nat} (large : 2 ^ 31 < frames) :
    scenario frames = .error (.frameId ⟨"1:2147483648"⟩) := by
  obtain ⟨more, rfl⟩ : ∃ more, frames = 2 ^ 31 + (more + 1) := ⟨frames - 2 ^ 31 - 1, by omega⟩
  obtain ⟨sound, distinct⟩ := frames_sound (Nat.le_refl (2 ^ 31))
  have faultless : Scenario.framesFaults [] (file (2 ^ 31)).frames = [] :=
    Scenario.framesFaults_eq_nil.mpr ⟨sound, distinct, List.forall_mem_nil _⟩
  have listed : (file (2 ^ 31 + (more + 1))).frames = (file (2 ^ 31)).frames ++ frameDecl (2 ^ 31) ::
      (List.range more).map fun r => frameDecl (2 ^ 31 + (r + 1)) := by
    rw [file, List.range_add, List.range_succ_eq_map, List.map_append, List.map_cons, List.map_cons]
    simp only [List.map_map, Function.comp_def, Nat.add_zero, file]
  have first : Scenario.frameIdFaults (frameDecl (2 ^ 31)).id = [.frameId ⟨"1:2147483648"⟩] := by
    rw [Scenario.frameIdFaults, frameId_large]
  refine ((Scenario.ofFile_loading _).fails _).mpr ?_
  rw [File.faults, listed, framesFaults_append, faultless, Scenario.framesFaults_cons,
    Scenario.frameFaults, first]
  rfl

end Frames

section Classification

theorem not_mem_digits {c : Char} (other : c.isDigit = false) (n : Nat) : c ∉ Text.digits n := by
  intro here
  rw [(Text.digits_digits n).2 c here] at other
  cases other

theorem toList_ad {n : Nat} (ad : n % 4 = 0) : (urlText n).toList =
    "https://cdn".toList ++ Text.digits (n % 16) ++ ".example".toList ++ "/ads/".toList ++
      ("banner/".toList ++ Text.digits n ++ ".png".toList) := by
  unfold urlText
  simp [ad, Text.natText]

theorem toList_image {n : Nat} (image : n % 4 ≠ 0) : (urlText n).toList =
    ("https://cdn".toList ++ Text.digits (n % 16) ++ ".ex".toList) ++
      ("ample/static/img/".toList ++ Text.digits n ++ ".png".toList) := by
  unfold urlText
  simp [image, Text.natText]

theorem ad_blocked {n : Nat} (ad : n % 4 = 0) : table.blocks ⟨urlText n⟩ = true := by
  rw [Table.blocks, List.any_eq_true]
  refine ⟨"/ads/", List.mem_cons_self, ?_⟩
  rw [Text.occursIn, Text.isInside_iff, toList_ad ad]
  exact List.infix_append _ _ _

/-- The pattern that lets addresses pass has two letters `c`, the address of an advertisement one. -/
theorem ad_not_allowed {n : Nat} (ad : n % 4 = 0) : table.allows ⟨urlText n⟩ = false := by
  rw [Table.allows, List.any_eq_false]
  intro pattern here found
  rw [List.mem_singleton.mp here, Text.occursIn, Text.isInside_iff, toList_ad ad] at found
  have digitless (n : Nat) : (Text.digits n).count 'c' = 0 :=
    List.count_eq_zero.mpr (not_mem_digits (by decide) n)
  have fewer := found.sublist.count_le 'c'
  simp only [List.count_append, digitless] at fewer
  exact absurd fewer (by decide)

/-- Of an image's address all letters `d` come before all letters `a`. -/
theorem image_unmatched {n : Nat} (image : n % 4 ≠ 0) {patterns : List String}
    (have_both : ∀ pattern ∈ patterns, ['a', 'd'].Sublist pattern.toList) :
    (patterns.any fun pattern => Text.occursIn pattern (urlText n)) = false := by
  rw [List.any_eq_false]
  intro pattern here found
  have has := have_both pattern here
  rw [Text.occursIn, Text.isInside_iff, toList_image image] at found
  obtain ⟨first, later, parts, before, after⟩ :=
    List.sublist_append_iff.mp (has.trans found.sublist)
  have noneBefore : 'a' ∉ "https://cdn".toList ++ Text.digits (n % 16) ++ ".ex".toList := by
    simp only [List.mem_append, not_or]
    exact ⟨⟨by decide, not_mem_digits (by decide) _⟩, by decide⟩
  have noneAfter : 'd' ∉ "ample/static/img/".toList ++ Text.digits n ++ ".png".toList := by
    simp only [List.mem_append, not_or]
    exact ⟨⟨by decide, not_mem_digits (by decide) _⟩, by decide⟩
  cases first with
  | nil =>
      rw [List.nil_append] at parts
      exact noneAfter (after.subset (parts ▸ by decide))
  | cons c rest =>
      obtain ⟨same, -⟩ := List.cons.inj parts
      exact noneBefore (before.subset (same ▸ List.mem_cons_self))

/-- The only table blocks each fourth address, and lets none pass. -/
theorem verdict_synthetic (frames n : Nat) :
    Scenario.verdict (synthetic frames).tables ⟨urlText n⟩ =
      if n % 4 = 0 then .blocked table.subscription else .ignored := by
  by_cases ad : n % 4 = 0
  · simp [Scenario.verdict, synthetic, ad_not_allowed ad, ad_blocked ad, ad]
  · have passes : table.allows ⟨urlText n⟩ = false := image_unmatched ad (by decide)
    have unblocked : table.blocks ⟨urlText n⟩ = false := image_unmatched ad (by decide)
    simp [Scenario.verdict, synthetic, passes, unblocked, ad]

end Classification

end FilterDispatch.Stress
