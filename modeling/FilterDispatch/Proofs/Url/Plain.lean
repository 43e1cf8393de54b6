import FilterDispatch.Proofs.Text.Case
import FilterDispatch.Url.Parse

/-!
Addresses that are read as they are written.  Where the host and all segments of the path have nothing
but small letters, digits and dots, no part of an address with the scheme `https` is changed.
-/

namespace FilterDispatch.Url

section Characters

/-- A small letter, a digit or a dot. -/
def isPlain (c : Char) : Bool :=
  (97 ≤ c.toNat && c.toNat ≤ 122) || (48 ≤ c.toNat && c.toNat ≤ 57) || c.toNat == 46

def Plain (s : List Char) : Prop :=
  ∀ c ∈ s, isPlain c = true

instance (s : List Char) : Decidable (Plain s) :=
  decidable_of_iff (s.all isPlain = true) List.all_eq_true

variable {c : Char}

theorem isPlain_iff : isPlain c = true ↔
    97 ≤ c.toNat ∧ c.toNat ≤ 122 ∨ 48 ≤ c.toNat ∧ c.toNat ≤ 57 ∨ c.toNat = 46 := by
  simp only [isPlain, Bool.or_eq_true, Bool.and_eq_true, decide_eq_true_eq, beq_iff_eq, or_assoc]

theorem ne_of_isPlain (plain : isPlain c = true) {sign : Char} (other : isPlain sign = false) :
    c ≠ sign := by
  rintro rfl
  rw [plain] at other
  cases other

theorem not_contains_of_isPlain (plain : isPlain c = true) {signs : List Char}
    (others : signs.all (fun sign => !isPlain sign) = true) : signs.contains c = false := by
  rw [List.contains_eq_mem, decide_eq_false_iff_not]
  intro here
  have other := List.all_eq_true.mp others c here
  rw [plain] at other
  cases other

theorem toLower_of_isPlain (plain : isPlain c = true) : c.toLower = c := by
  rw [← Char.toNat_inj, Text.toNat_toLower, if_neg]
  have range := isPlain_iff.mp plain
  omega

theorem not_control_of_isPlain (plain : isPlain c = true) : isControl c = false := by
  have range := isPlain_iff.mp plain
  simp only [isControl, Bool.or_eq_false_iff, decide_eq_false_iff_not, beq_eq_false_iff_ne]
  omega

theorem not_inPath_of_isPlain (plain : isPlain c = true) : inPath c = false := by
  rw [inPath, inFragment, not_control_of_isPlain plain, not_contains_of_isPlain plain (by decide),
    not_contains_of_isPlain plain (by decide)]
  rfl

theorem escapeChar_of_isPlain (plain : isPlain c = true) : escapeChar inPath c = [c] := by
  have range := isPlain_iff.mp plain
  rw [escapeChar, not_inPath_of_isPlain plain, if_neg]
  simp only [Bool.or_false, decide_eq_true_eq]
  omega

theorem not_forbidden_of_isPlain (plain : isPlain c = true) : Domain.isForbidden c = false := by
  have range := isPlain_iff.mp plain
  rw [Domain.isForbidden, not_contains_of_isPlain plain (by decide)]
  simp only [Bool.or_false, Bool.or_eq_false_iff, decide_eq_false_iff_not, beq_eq_false_iff_ne]
  omega

theorem map_toLower_of_plain {s : List Char} (plain : Plain s) : s.map Char.toLower = s :=
  calc
    s.map Char.toLower = s.map id :=
      List.map_congr_left fun c here => toLower_of_isPlain (plain c here)
    _ = s := List.map_id s

end Characters

section Hosts

theorem unescape_of_absent {bytes : List UInt8} (absent : 37 ∉ bytes) : unescape bytes = bytes := by
  induction bytes with
  | nil => rfl
  | cons b rest ih =>
      obtain ⟨other, absent⟩ := not_or.mp (mt List.mem_cons.mpr absent)
      rw [unescape, ih absent]
      rintro a b' rest' rfl
      exact absurd rfl other

theorem ofUtf8?_utf8Bytes (s : List Char) : Text.ofUtf8? (Text.utf8Bytes s) = some s := by
  have bytes : ByteArray.mk (Text.utf8Bytes s).toArray = (String.ofList s).toByteArray := by
    rw [String.toByteArray_ofList]
    apply ByteArray.ext
    rw [List.utf8Encode, List.data_toByteArray]
    rfl
  rw [Text.ofUtf8?, bytes, String.fromUTF8?, dif_pos (String.ofList s).isValidUTF8]
  exact congrArg some String.toList_ofList

theorem percent_not_mem_utf8Bytes {s : List Char} (plain : Plain s) : 37 ∉ Text.utf8Bytes s := by
  intro here
  obtain ⟨c, member, encoded⟩ := List.mem_flatMap.mp here
  have range := isPlain_iff.mp (plain c member)
  have ascii : String.utf8EncodeChar c = [UInt8.ofNat c.toNat] := by
    have small : c.val.toNat ≤ 127 := by
      change c.toNat ≤ 127
      omega
    rw [String.utf8EncodeChar, if_pos small]
    rfl
  rw [ascii, List.mem_singleton] at encoded
  have code := congrArg UInt8.toNat encoded
  rw [UInt8.toNat_ofNat', Nat.mod_eq_of_lt (by omega)] at code
  change 37 = c.toNat at code
  omega

theorem plain_of_mem_labelsOf {name label : List Char} (plain : Plain name)
    (here : label ∈ Domain.labelsOf name) : Plain label := by
  induction name generalizing label with
  | nil =>
      rw [List.mem_singleton.mp here]
      exact List.forall_mem_nil _
  | cons c rest ih =>
      obtain ⟨own, later⟩ := List.forall_mem_cons.mp plain
      rw [Domain.labelsOf] at here
      split at here
      case isTrue =>
        obtain rfl | there := List.mem_cons.mp here
        · exact List.forall_mem_nil _
        · exact ih later there
      case isFalse =>
        split at here
        case h_1 first more labels =>
          rw [labels] at ih
          obtain rfl | there := List.mem_cons.mp here
          · exact List.forall_mem_cons.mpr ⟨own, ih later List.mem_cons_self⟩
          · exact ih later (List.mem_cons_of_mem _ there)
        case h_2 =>
          rw [List.mem_singleton.mp here]
          exact List.forall_mem_singleton.mpr own

theorem isSimple_of_plain {name : List Char} (plain : Plain name) : Domain.isSimple name = true := by
  rw [Domain.isSimple, Bool.and_eq_true]
  constructor
  · rw [Domain.Label.isAscii, List.all_eq_true]
    intro c here
    have range := isPlain_iff.mp (plain c here)
    rw [Domain.Punycode.isBasic, decide_eq_true_eq, Domain.Punycode.firstCode]
    omega
  · rw [Bool.not_eq_true', List.any_eq_false]
    intro label here encoded
    -- An encoded label has hyphens.
    have hyphen : '-' ∈ label := (List.isPrefixOf_iff_prefix.mp encoded).subset (by decide)
    exact absurd (plain_of_mem_labelsOf plain here '-' hyphen) (by decide)

theorem toAscii?_of_plain {name : List Char} (plain : Plain name) :
    Domain.toAscii? (unescape (Text.utf8Bytes name)) = some name := by
  have simple := isSimple_of_plain plain
  have ascii : Domain.Label.isAscii name = true := (Bool.and_eq_true_iff.mp simple).1
  have allowed : name.any Domain.isForbidden = false := by
    rw [List.any_eq_false]
    intro c here
    rw [not_forbidden_of_isPlain (plain c here)]
    exact Bool.false_ne_true
  rw [unescape_of_absent (percent_not_mem_utf8Bytes plain), Domain.toAscii?, ofUtf8?_utf8Bytes,
    Option.bind_some, Domain.ofCharacters, if_pos ascii, map_toLower_of_plain plain]
  simp only [Option.bind_eq_bind, Option.bind_some, allowed, simple, Bool.false_eq_true, if_false,
    if_true]

/-- A name that is no IPv4 address in any spelling. -/
structure PlainHost (name : List Char) : Prop where
  plain : Plain name
  nonempty : name ≠ []
  named : Ipv4.endsInNumber name = false

theorem head?_ne_bracket {s : List Char} (plain : Plain s) : s.head? ≠ some '[' := by
  intro head
  exact absurd (plain '[' (List.mem_of_head? head)) (by decide)

theorem namedHost_of_plain {name : List Char} (own : PlainHost name) : namedHost name = .ok name := by
  obtain ⟨c, rest, rfl⟩ := List.exists_cons_of_ne_nil own.nonempty
  rw [namedHost, if_neg (head?_ne_bracket own.plain), toAscii?_of_plain own.plain]
  simp only [own.named, Bool.false_eq_true, if_false]

theorem cutHost_of_plain {name : List Char} (plain : Plain name) (path : List Char) :
    cutHost true false (name ++ '/' :: path) = (name, '/' :: path) := by
  induction name with
  | nil => simp [cutHost]
  | cons c rest ih =>
      obtain ⟨own, later⟩ := List.forall_mem_cons.mp plain
      have differs {sign : Char} (other : isPlain sign = false) : c ≠ sign :=
        ne_of_isPlain own other
      have goes_on : ¬ (c = ':' ∧ (!false) = true ∨ true = true ∧ c = '\\' ∨ c = '/' ∨ c = '?' ∨
          c = '#') := by
        simp only [Bool.not_false, and_true, true_and, not_or]
        exact ⟨differs rfl, differs rfl, differs rfl, differs rfl, differs rfl⟩
      have outside : (if c = '[' then true else if c = ']' then false else false) = false := by
        rw [if_neg (differs rfl), ite_self]
      rw [List.cons_append, cutHost, if_neg goes_on, outside]
      simp only [ih later]

end Hosts

section Paths

/-- A segment of a path that is no dot segment. -/
structure PlainSegment (segment : List Char) : Prop where
  plain : Plain segment
  single : segment ≠ ['.']
  double : segment ≠ ['.', '.']

instance (segment : List Char) : Decidable (PlainSegment segment) :=
  decidable_of_iff (Plain segment ∧ segment ≠ ['.'] ∧ segment ≠ ['.', '.'])
    ⟨fun ⟨plain, single, double⟩ => ⟨plain, single, double⟩,
      fun own => ⟨own.plain, own.single, own.double⟩⟩

variable {segment : List Char}

theorem ofList_ne {s : List Char} {t : String} (differs : s ≠ t.toList) :
    (String.ofList s == t) = false := by
  rw [beq_eq_false_iff_ne]
  rintro rfl
  exact differs String.toList_ofList.symm

theorem PlainSegment.ne_of_percent (own : PlainSegment segment) {t : List Char} (here : '%' ∈ t) :
    segment ≠ t := by
  rintro rfl
  exact absurd (own.plain '%' here) (by decide)

theorem PlainSegment.not_dots (own : PlainSegment segment) :
    isSingleDot segment = false ∧ isDoubleDot segment = false := by
  simp only [isSingleDot, isDoubleDot, map_toLower_of_plain own.plain, Bool.or_eq_false_iff]
  refine ⟨⟨ofList_ne own.single, ?_⟩, ⟨⟨ofList_ne own.double, ?_⟩, ?_⟩, ?_⟩ <;>
    exact ofList_ne (own.ne_of_percent (by decide))

/-- A plain segment is what is pending after it was read. -/
theorem readPath_plain (plain : Plain segment) (s : PathState) (rest : List Char) :
    readPath true false s (segment ++ rest) =
      readPath true false { s with pending := segment.reverse ++ s.pending } rest := by
  induction segment generalizing s with
  | nil => rfl
  | cons c more ih =>
      obtain ⟨own, later⟩ := List.forall_mem_cons.mp plain
      have differs {sign : Char} (other : isPlain sign = false) : c ≠ sign :=
        ne_of_isPlain own other
      have inside : ¬ (c = '/' ∨ true = true ∧ c = '\\') := by
        simp only [true_and, not_or]
        exact ⟨differs rfl, differs rfl⟩
      have goes_on : ¬ (c = '?' ∨ c = '#') := not_or.mpr ⟨differs rfl, differs rfl⟩
      have solid : isBreak c = false := by
        simp only [isBreak, Bool.or_eq_false_iff, beq_eq_false_iff_ne]
        exact ⟨⟨differs rfl, differs rfl⟩, differs rfl⟩
      have added : s.add false c = { s with pending := c :: s.pending } := by
        rw [PathState.add, escapeChar_of_isPlain own]
        rfl
      rw [List.cons_append, readPath, if_neg inside, if_neg goes_on, if_neg (by simp [solid]), added,
        ih later, List.reverse_cons, List.append_assoc, List.singleton_append]

theorem close_plain (own : PlainSegment segment) (before : List Char) (hasHost slash : Bool) :
    PathState.close false { before, pending := segment.reverse, hasHost } slash =
      { before := before ++ segment ++ if slash then ['/'] else [], hasHost } := by
  obtain ⟨single, double⟩ := own.not_dots
  simp [PathState.close, PathState.segment, single, double]

theorem readPath_segments {segments : List (List Char)} (some : segments ≠ [])
    (own : ∀ segment ∈ segments, PlainSegment segment) (before : List Char) (hasHost : Bool) :
    readPath true false { before, hasHost } (['/'].intercalate segments) =
      ({ before := before ++ ['/'].intercalate segments, hasHost }, []) := by
  induction segments generalizing before with
  | nil => exact absurd rfl some
  | cons segment rest ih =>
      obtain ⟨here, later⟩ := List.forall_mem_cons.mp own
      cases rest with
      | nil =>
          have read := readPath_plain here.plain { before, hasHost } []
          rw [List.append_nil] at read
          rw [List.intercalate_singleton, read, readPath]
          simp [close_plain here]
      | cons next more =>
          rw [List.intercalate_cons_cons, List.append_assoc, readPath_plain here.plain]
          rw [List.singleton_append, readPath, if_pos (.inl rfl)]
          simp only [List.append_nil]
          rw [close_plain here, if_pos rfl, ih (List.cons_ne_nil _ _) later]
          simp

end Paths

def secure : List Char :=
  ['h', 't', 't', 'p', 's']

def plainText (host : List Char) (segments : List (List Char)) : List Char :=
  secure ++ ':' :: '/' :: '/' :: (host ++ '/' :: ['/'].intercalate segments)

theorem mem_intercalate {separator c : Char} {segments : List (List Char)}
    (here : c ∈ [separator].intercalate segments) :
    c = separator ∨ ∃ segment ∈ segments, c ∈ segment := by
  induction segments with
  | nil => cases here
  | cons segment rest ih =>
      cases rest with
      | nil =>
          rw [List.intercalate_singleton] at here
          exact .inr ⟨segment, List.mem_cons_self, here⟩
      | cons next more =>
          rw [List.intercalate_cons_cons, List.mem_append, List.mem_append] at here
          obtain (own | between) | later := here
          · exact .inr ⟨segment, List.mem_cons_self, own⟩
          · exact .inl (List.mem_singleton.mp between)
          · exact (ih later).imp_right fun ⟨segment, there, own⟩ =>
              ⟨segment, List.mem_cons_of_mem _ there, own⟩

theorem mem_plainText {host : List Char} {segments : List (List Char)} (own : Plain host)
    (all : ∀ segment ∈ segments, PlainSegment segment) :
    ∀ c ∈ plainText host segments, isPlain c = true ∨ c = '/' ∨ c = ':' := by
  intro c here
  rw [plainText, List.mem_append, List.mem_cons, List.mem_cons, List.mem_cons, List.mem_append,
    List.mem_cons] at here
  obtain scheme | colon | slash | slash | named | slash | path := here
  · have letters : Plain secure := by decide
    exact .inl (letters c scheme)
  · exact .inr (.inr colon)
  · exact .inr (.inl slash)
  · exact .inr (.inl slash)
  · exact .inl (own c named)
  · exact .inr (.inl slash)
  · obtain slash | ⟨segment, there, within⟩ := mem_intercalate path
    · exact .inr (.inl slash)
    · exact .inl ((all segment there).plain c within)

theorem dropWhile_absent {p : Char → Bool} {s : List Char} (absent : ∀ c ∈ s, p c = false) :
    s.dropWhile p = s := by
  cases s with
  | nil => rfl
  | cons c rest => exact List.dropWhile_cons_of_neg (by simp [absent])

theorem trim_solid {s : List Char} (solid : ∀ c ∈ s, isControlOrSpace c = false) : trim s = s := by
  rw [trim, dropWhile_absent solid, dropWhile_absent fun c here => solid c (List.mem_reverse.mp here),
    List.reverse_reverse]

theorem dropBreaks_solid {s : List Char} (solid : ∀ c ∈ s, isControlOrSpace c = false) :
    dropBreaks s = s := by
  rw [dropBreaks, List.filter_eq_self]
  intro c here
  rw [Bool.not_eq_true', isBreak]
  have visible := solid c here
  simp only [Bool.or_eq_false_iff, beq_eq_false_iff_ne]
  refine ⟨⟨?_, ?_⟩, ?_⟩ <;> rintro rfl <;> cases visible

theorem cutUserInfo_absent {s : List Char} (absent : '@' ∉ s) : cutUserInfo true s = none := by
  have none : (s.takeWhile fun c =>
      !(c == '/' || c == '?' || c == '#' || (true && c == '\\'))).contains '@' = false := by
    rw [List.contains_eq_mem, decide_eq_false_iff_not]
    exact fun here => absent ((List.takeWhile_prefix _).subset here)
  rw [cutUserInfo, if_neg (by rw [none]; exact Bool.false_ne_true)]

theorem host_plain {name : List Char} (own : PlainHost name) (path : List Char) :
    Url.host .special (name ++ '/' :: path) = .ok (name, '/' :: path) := by
  have there : name.isEmpty = false := by simpa using own.nonempty
  have special : Manner.special.isSpecial = true := rfl
  simp only [Url.host, special, cutHost_of_plain own.plain, there, namedHost_of_plain own]
  rfl

theorem withAuthority_plain {name path : List Char} (own : PlainHost name)
    (absent : '@' ∉ name ++ '/' :: path)
    (read : readPath true false { before := ['/'], hasHost := true } path =
      ({ before := '/' :: path, hasHost := true }, [])) :
    withAuthority .special secure (name ++ '/' :: path) =
      .ok (secure ++ ':' :: '/' :: '/' :: (name ++ '/' :: path)) := by
  have info : userInfo .special (name ++ '/' :: path) = .ok ([], name ++ '/' :: path) := by
    have nobody : cutUserInfo Manner.special.isSpecial (name ++ '/' :: path) = none :=
      cutUserInfo_absent absent
    rw [userInfo, nobody]
  have portless : port secure ('/' :: path) = .ok ([], '/' :: path) := rfl
  have walked : pathAfterHost .special true ('/' :: path) =
      ({ before := '/' :: path, hasHost := true }, []) := read
  have there : name.isEmpty = false := by simpa using own.nonempty
  have written : queryAndFragment Manner.special.isSpecial [] = [] := rfl
  simp only [withAuthority, info, bind, Except.bind, host_plain own, there, portless, Bool.not_false,
    walked, written, PathState.path, Bool.false_eq_true, false_and, if_false, List.append_nil,
    List.append_assoc, List.cons_append, List.nil_append]
  rfl

theorem parseChars_plain {host : List Char} {segments : List (List Char)} (own : PlainHost host)
    (some : segments ≠ []) (all : ∀ segment ∈ segments, PlainSegment segment) :
    parseChars (plainText host segments) = .ok (plainText host segments) := by
  have chars := mem_plainText own.plain all
  have solid : ∀ c ∈ plainText host segments, isControlOrSpace c = false := by
    intro c here
    obtain plain | rfl | rfl := chars c here
    · have range := isPlain_iff.mp plain
      simp only [isControlOrSpace, decide_eq_false_iff_not]
      omega
    · decide
    · decide
  have absent : '@' ∉ host ++ '/' :: ['/'].intercalate segments := by
    intro here
    have there : '@' ∈ plainText host segments := by
      rw [plainText, List.mem_append]
      exact .inr (List.mem_cons_of_mem _ (List.mem_cons_of_mem _ (List.mem_cons_of_mem _ here)))
    obtain plain | slash | colon := chars '@' there
    · exact absurd plain (by decide)
    · exact absurd slash (by decide)
    · exact absurd colon (by decide)
  have scheme : scheme? (plainText host segments) =
      Option.some (secure, '/' :: '/' :: (host ++ '/' :: ['/'].intercalate segments)) := by
    rfl
  have slashes : ('/' :: '/' :: (host ++ '/' :: ['/'].intercalate segments)).dropWhile isSlash =
      host ++ '/' :: ['/'].intercalate segments := by
    obtain ⟨c, rest, rfl⟩ := List.exists_cons_of_ne_nil own.nonempty
    have solid : isSlash c = false := by
      have plain := own.plain c List.mem_cons_self
      simp only [isSlash, Bool.or_eq_false_iff, beq_eq_false_iff_ne]
      exact ⟨ne_of_isPlain plain rfl, ne_of_isPlain plain rfl⟩
    rw [List.dropWhile_cons_of_pos rfl, List.dropWhile_cons_of_pos rfl, List.cons_append,
      List.dropWhile_cons_of_neg (by simp [solid])]
  have manner : Manner.ofScheme secure = .special := by decide
  rw [parseChars, trim_solid solid, dropBreaks_solid solid, scheme]
  simp only [manner, slashes]
  exact withAuthority_plain own absent (readPath_segments some all ['/'] true)

theorem parse_plain {host : List Char} {segments : List (List Char)} (own : PlainHost host)
    (some : segments ≠ []) (all : ∀ segment ∈ segments, PlainSegment segment) :
    parse (String.ofList (plainText host segments)) =
      .ok ⟨String.ofList (plainText host segments)⟩ := by
  rw [parse, String.toList_ofList, parseChars_plain own some all]

end FilterDispatch.Url
