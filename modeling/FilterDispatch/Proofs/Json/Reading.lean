import FilterDispatch.Json.Record
import FilterDispatch.Proofs.Text.Numeral

/-!
What readers of a JSON text come to.  A whole number that is read fits 64 bits, and one that fits them
is read back from its own digits; so are plain texts and the records made of them.
-/

namespace FilterDispatch.Json.Reader

variable {α β : Type}

theorem bind_apply (m : Reader α) (f : α → Reader β) (s : Cursor) :
    (m >>= f) s = match m s with
      | .ok a t => f a t
      | .error e t => .error e t := by
  change EStateM.bind m f s = _
  unfold EStateM.bind
  cases m s with
  | ok a t => rfl
  | error e t => rfl

theorem bind_of_ok {m : Reader α} (f : α → Reader β) {s t : Cursor} {a : α} (read : m s = .ok a t) :
    (m >>= f) s = f a t := by
  rw [bind_apply, read]

theorem bind_eq_ok {m : Reader α} {f : α → Reader β} {s u : Cursor} {b : β} :
    (m >>= f) s = .ok b u ↔ ∃ a t, m s = .ok a t ∧ f a t = .ok b u := by
  rw [bind_apply]
  cases m s with
  | ok a t => simp [and_assoc]
  | error e t => simp

/-- A reader comes to values of this kind only. -/
def Returns (P : α → Prop) (m : Reader α) : Prop :=
  ∀ s a t, m s = .ok a t → P a

section Returns

variable {P : α → Prop} {Q : β → Prop}

theorem returns_pure {a : α} (here : P a) : Returns P (pure a : Reader α) := by
  intro s b t read
  cases read
  exact here

theorem returns_throw (e : Fault) : Returns P (throw e : Reader α) := by
  intro s a t read
  cases read

theorem Returns.bind {m : Reader α} {f : α → Reader β} (first : Returns P m)
    (further : ∀ a, P a → Returns Q (f a)) : Returns Q (m >>= f) := by
  intro s b u read
  obtain ⟨a, t, here, there⟩ := bind_eq_ok.mp read
  exact further a (first s a t here) t b u there

theorem returns_bind {m : Reader α} {f : α → Reader β} (further : ∀ a, Returns Q (f a)) :
    Returns Q (m >>= f) := by
  intro s b u read
  obtain ⟨a, t, here, there⟩ := bind_eq_ok.mp read
  exact further a t b u there

theorem returns_failHere (cause : Cause) : Returns P (failHere cause : Reader α) :=
  returns_bind fun s => returns_throw ⟨cause, some s.place⟩

theorem returns_failNext (cause : Cause) : Returns P (failNext cause : Reader α) :=
  returns_bind fun s => returns_throw ⟨cause, some s.nextPlace⟩

theorem returns_failWithin (cause : Cause) : Returns P (failWithin cause : Reader α) :=
  returns_throw ⟨cause, none⟩

theorem returns_wrongType (wanted : String) : Returns P (wrongType wanted : Reader α) :=
  returns_bind fun found => returns_failHere (.wrongType found wanted)

theorem Returns.placed {m : Reader α} (returns : Returns P m) : Returns P (placed m) := by
  intro s a t read
  unfold Reader.placed at read
  cases inner : m s with
  | ok b u =>
      rw [inner] at read
      cases read
      exact returns s a t inner
  | error e u =>
      rw [inner] at read
      cases read

theorem Returns.bracketed {m : Reader α} (returns : Returns P m) (close : Reader Unit) :
    Returns P (bracketed m close) := by
  intro s a t read
  unfold Reader.bracketed at read
  cases inner : m s with
  | ok b u =>
      rw [inner] at read
      cases closed : close u with
      | ok _ v =>
          simp only [closed] at read
          cases read
          exact returns s a u inner
      | error e v =>
          simp only [closed] at read
          cases read
  | error e u =>
      rw [inner] at read
      cases closed : close u <;> simp only [closed] at read <;> cases read

theorem returns_recordValue {named listed : Reader α} (wanted : String) (byName : Returns P named)
    (inOrder : Returns P listed) : Returns P (recordValue wanted named listed) := by
  apply Returns.placed
  apply returns_bind
  intro c
  split
  · exact returns_bind fun _ => byName.bracketed closeObject
  · exact returns_bind fun _ => inOrder.bracketed closeList
  · exact returns_wrongType wanted

theorem returns_fieldsFrom {field : String → α → Reader α}
    (keeps : ∀ name done, P done → Returns P (field name done)) (fuel : Nat) (first : Bool) {start : α}
    (here : P start) : Returns P (fieldsFrom field fuel first start) := by
  induction fuel generalizing first start with
  | zero => exact returns_pure here
  | succ fuel ih =>
      apply returns_bind
      intro follows
      split
      · apply returns_bind
        intro name
        exact (keeps name start here).bind fun next held => ih false held
      · exact returns_pure here

theorem returns_fields {field : String → α → Reader α} {start : α}
    (keeps : ∀ name done, P done → Returns P (field name done)) (here : P start) :
    Returns P (fields field start) :=
  returns_bind fun left => returns_fieldsFrom keeps (left + 1) true here

theorem Returns.whole {m : Reader α} (returns : Returns P m) {s : String} {a : α}
    (read : Reader.whole m s = .ok a) : P a := by
  unfold Reader.whole at read
  dsimp only [EStateM.run] at read
  split at read
  · next b t ran =>
      cases read
      obtain ⟨c, u, first, rest⟩ := bind_eq_ok.mp ran
      obtain ⟨next, v, looked, rest⟩ := bind_eq_ok.mp rest
      cases next with
      | none =>
          cases rest
          exact returns _ _ _ first
      | some d => exact absurd rest (returns_failNext (P := fun _ => False) _ _ _ _)
  · cases read

end Returns

/-- A natural number fits 64 bits; others are of another kind. -/
def FitsWord : Number → Prop
  | .natural n => n ≤ largest64
  | .negative _ | .real _ => True

theorem returns_finishWhole (positive : Bool) {significand : Nat} (fits : significand ≤ largest64) :
    Returns FitsWord (finishWhole positive significand) := by
  apply returns_bind
  intro next
  split
  · exact returns_bind fun x => returns_pure trivial
  · exact returns_bind fun x => returns_pure trivial
  · exact returns_bind fun x => returns_pure trivial
  · split
    · exact returns_pure fits
    · split
      · exact returns_pure trivial
      · exact returns_pure trivial

theorem returns_longWhole (positive : Bool) (significand : Nat) :
    Returns FitsWord (longWhole positive significand) := by
  refine returns_bind fun left => returns_bind fun dropped => returns_bind fun next => ?_
  split
  · exact returns_bind fun x => returns_pure trivial
  · exact returns_bind fun x => returns_pure trivial

theorem returns_wholeDigits (positive : Bool) (fuel : Nat) {significand : Nat}
    (fits : significand ≤ largest64) : Returns FitsWord (wholeDigits positive fuel significand) := by
  induction fuel generalizing significand with
  | zero => exact returns_finishWhole positive fits
  | succ fuel ih =>
      apply returns_bind
      intro next
      cases next with
      | none => exact returns_finishWhole positive fits
      | some d =>
          simp only
          split
          · -- One digit too many: what is read from here on counts as a real number.
            exact returns_longWhole positive significand
          · next small => exact returns_bind fun _ => ih (Nat.not_lt.mp small)

theorem digit_fits {c : Char} (digit : c.isDigit = true) : c.toNat - 48 ≤ largest64 := by
  have range := Text.isDigit_iff.mp digit
  simp only [largest64]
  omega

theorem returns_unsigned (positive : Bool) : Returns FitsWord (unsigned positive) := by
  apply returns_bind
  intro next
  split
  · exact returns_failHere _
  · apply returns_bind
    intro _
    apply returns_bind
    intro digit
    split
    · exact returns_failNext _
    · exact returns_finishWhole positive (Nat.zero_le _)
  · split
    · next digit =>
        apply returns_bind
        intro _
        exact returns_bind fun left => returns_wholeDigits positive left (digit_fits digit)
    · exact returns_failNext _

theorem returns_number : Returns FitsWord number := by
  apply returns_bind
  intro next
  split
  · exact returns_bind fun _ => returns_unsigned false
  · exact returns_unsigned true

theorem returns_naturalValue (wanted : String) : Returns (· ≤ largest64) (naturalValue wanted) := by
  apply Returns.placed
  apply returns_bind
  intro c
  split
  · refine returns_number.bind fun x fits => ?_
    cases x with
    | natural n => exact returns_pure fits
    | negative i => exact returns_failWithin _
    | real y => exact returns_failWithin _
  · exact returns_wrongType wanted

/-- The reader goes from one place in a text to the other, wherever the text stands. -/
def Reads (m : Reader α) (cs : List Char) (a : α) (rest : List Char) : Prop :=
  ∀ p, ∃ q, m ⟨cs, p⟩ = .ok a ⟨rest, q⟩

section Reads

variable {cs mid rest : List Char}

theorem reads_pure (a : α) (cs : List Char) : Reads (pure a) cs a cs :=
  fun p => ⟨p, rfl⟩

theorem Reads.bind {m : Reader α} {f : α → Reader β} {a : α} {b : β} (first : Reads m cs a mid)
    (further : Reads (f a) mid b rest) : Reads (m >>= f) cs b rest := by
  intro p
  obtain ⟨q, here⟩ := first p
  obtain ⟨r, there⟩ := further q
  exact ⟨r, (bind_of_ok f here).trans there⟩

theorem Reads.placed {m : Reader α} {a : α} (reads : Reads m cs a rest) :
    Reads (placed m) cs a rest := by
  intro p
  obtain ⟨q, read⟩ := reads p
  exact ⟨q, by simp only [Reader.placed, read]⟩

theorem Reads.bracketed {m : Reader α} {close : Reader Unit} {a : α} (inside : Reads m cs a mid)
    (closes : Reads close mid () rest) : Reads (bracketed m close) cs a rest := by
  intro p
  obtain ⟨q, read⟩ := inside p
  obtain ⟨r, closed⟩ := closes q
  exact ⟨r, by simp only [Reader.bracketed, read, closed]⟩

theorem reads_peek? (cs : List Char) : Reads peek? cs cs.head? cs :=
  fun p => ⟨p, rfl⟩

theorem reads_skip (c : Char) (cs : List Char) : Reads skip (c :: cs) () cs :=
  fun p => ⟨p.after c, rfl⟩

theorem reads_remaining (cs : List Char) : Reads remaining cs cs.length cs :=
  fun p => ⟨p, rfl⟩

theorem reads_peekDigit? {c : Char} (digit : c.isDigit = true) (cs : List Char) :
    Reads peekDigit? (c :: cs) (some (c.toNat - 48)) (c :: cs) := by
  refine (reads_peek? _).bind ?_
  simp only [List.head?_cons, digit, if_true]
  exact reads_pure _ _

theorem reads_token? {c : Char} (solid : isSpace c = false) (cs : List Char) :
    Reads token? (c :: cs) (some c) (c :: cs) := by
  intro p
  refine ⟨p, ?_⟩
  have still : skipSpaces (c :: cs) p = ⟨c :: cs, p⟩ := by
    rw [skipSpaces, if_neg (Bool.eq_false_iff.mp solid)]
  exact (bind_of_ok (fun _ => peek?) (t := ⟨c :: cs, p⟩) (congrArg (EStateM.Result.ok ()) still)).trans
    rfl

theorem reads_valueStart {c : Char} (solid : isSpace c = false) (cs : List Char) :
    Reads valueStart (c :: cs) c (c :: cs) :=
  (reads_token? solid cs).bind (reads_pure c _)

/-- Nothing that follows goes on with a whole number. -/
def EndsNumber (rest : List Char) : Prop :=
  ∀ c ∈ rest.head?, c.isDigit = false ∧ c ≠ '.' ∧ c ≠ 'e' ∧ c ≠ 'E'

theorem reads_peekDigit?_none (ends : EndsNumber rest) : Reads peekDigit? rest none rest := by
  refine (reads_peek? _).bind ?_
  cases next : rest.head? with
  | none => exact reads_pure _ _
  | some c =>
      simp only [(ends c next).1, Bool.false_eq_true, if_false]
      exact reads_pure _ _

theorem reads_finishWhole (ends : EndsNumber rest) (n : Nat) :
    Reads (finishWhole true n) rest (.natural n) rest := by
  refine (reads_peek? _).bind ?_
  split
  · next point => exact absurd rfl (ends _ point).2.1
  · next letter => exact absurd rfl (ends _ letter).2.2.1
  · next letter => exact absurd rfl (ends _ letter).2.2.2
  · exact reads_pure _ _

theorem le_gathered (ds : List Char) (n : Nat) :
    n ≤ ds.foldl (fun n d => 10 * n + Text.digitValue d) n := by
  induction ds generalizing n with
  | nil => exact Nat.le_refl n
  | cons d ds ih =>
      have more : n ≤ 10 * n + Text.digitValue d := by omega
      exact Nat.le_trans more (ih _)

theorem reads_wholeDigits {ds : List Char} (digits : ∀ d ∈ ds, d.isDigit = true)
    (ends : EndsNumber rest) {fuel n : Nat} (enough : ds.length ≤ fuel)
    (fits : ds.foldl (fun n d => 10 * n + Text.digitValue d) n ≤ largest64) :
    Reads (wholeDigits true fuel n) (ds ++ rest)
      (.natural (ds.foldl (fun n d => 10 * n + Text.digitValue d) n)) rest := by
  induction ds generalizing fuel n with
  | nil =>
      cases fuel with
      | zero => exact reads_finishWhole ends n
      | succ fuel => exact (reads_peekDigit?_none ends).bind (reads_finishWhole ends n)
  | cons d ds ih =>
      obtain ⟨fuel, rfl⟩ := Nat.exists_eq_succ_of_ne_zero
        (Nat.ne_zero_of_lt (Nat.lt_of_lt_of_le (Nat.succ_pos ds.length) enough))
      refine (reads_peekDigit? (digits d List.mem_cons_self) _).bind ?_
      have same : n * 10 + (d.toNat - 48) = 10 * n + Text.digitValue d := by
        rw [Text.digitValue, Nat.mul_comm]
      have small : ¬ largest64 < 10 * n + Text.digitValue d :=
        Nat.not_lt.mpr (Nat.le_trans (le_gathered ds _) fits)
      simp only [same, if_neg small]
      refine (reads_skip d _).bind ?_
      exact ih (fun x there => digits x (List.mem_cons_of_mem d there)) (Nat.le_of_succ_le_succ enough)
        fits

theorem digits_cases (n : Nat) :
    n = 0 ∧ Text.digits n = ['0'] ∨ ∃ c ds, Text.digits n = c :: ds ∧ c ≠ '0' := by
  induction n using Text.digits.induct with
  | case1 n small =>
      rw [Text.digits, if_pos small]
      have lone : ∀ n < 10, n = 0 ∨ Text.digitChar n ≠ '0' := by decide
      obtain rfl | other := lone n small
      · exact .inl ⟨rfl, rfl⟩
      · exact .inr ⟨_, [], rfl, other⟩
  | case2 n large ih =>
      rw [Text.digits, if_neg large]
      refine .inr ?_
      obtain ⟨none, -⟩ | ⟨c, ds, front, other⟩ := ih
      · omega
      · exact ⟨c, ds ++ [Text.digitChar (n % 10)], by rw [front, List.cons_append], other⟩

theorem reads_number {n : Nat} (fits : n ≤ largest64) (ends : EndsNumber rest) :
    Reads number (Text.digits n ++ rest) (.natural n) rest := by
  have digits := Text.digits_digits n
  have value := Text.placeValue_digits n
  rw [← Text.ofDigits_eq] at value
  refine (reads_peek? _).bind ?_
  -- A reader refuses digits behind a zero in front, and goes another way from there.
  obtain ⟨rfl, zero⟩ | ⟨c, ds, front, other⟩ := digits_cases n
  · rw [zero]
    refine (reads_peek? _).bind ?_
    refine (reads_skip _ _).bind ?_
    exact (reads_peekDigit?_none ends).bind (reads_finishWhole ends 0)
  · rw [front] at digits value ⊢
    have digit := digits.head_isDigit
    have unsigned : c ≠ '-' := by
      rintro rfl
      cases digit
    split
    · next minus =>
        rw [List.cons_append, List.head?_cons, Option.some.injEq] at minus
        exact absurd minus unsigned
    · refine (reads_peek? _).bind ?_
      split
      · next nothing => cases nothing
      · next zero =>
          rw [List.cons_append, List.head?_cons, Option.some.injEq] at zero
          exact absurd zero other
      · next d _ first =>
          rw [List.cons_append, List.head?_cons, Option.some.injEq] at first
          subst first
          rw [if_pos digit]
          refine (reads_skip _ _).bind ?_
          refine (reads_remaining _).bind ?_
          have gathered : ds.foldl (fun n d => 10 * n + Text.digitValue d) (c.toNat - 48) = n := by
            rw [← value, Text.ofDigits, List.foldl_cons, Nat.mul_zero, Nat.zero_add, Text.digitValue]
          have room : ds.length ≤ (ds ++ rest).length := by simp
          have tail : ∀ x ∈ ds, x.isDigit = true := fun x there => digits.2 x (List.mem_cons_of_mem c there)
          have read := reads_wholeDigits tail ends room (gathered.symm ▸ fits)
          rwa [gathered] at read

/-- A whole number that fits 64 bits is read back from its digits. -/
theorem reads_naturalValue {n : Nat} (wanted : String) (fits : n ≤ largest64)
    (ends : EndsNumber rest) :
    Reads (naturalValue wanted) (Text.digits n ++ rest) n rest := by
  obtain ⟨c, ds, front⟩ := List.exists_cons_of_ne_nil (Text.digits_digits n).1
  have digit : c.isDigit = true := (front ▸ Text.digits_digits n).head_isDigit
  have solid : isSpace c = false := by
    have range := Text.isDigit_iff.mp digit
    simp only [isSpace, Bool.or_eq_false_iff, beq_eq_false_iff_ne]
    refine ⟨⟨⟨?_, ?_⟩, ?_⟩, ?_⟩ <;> rintro rfl <;> exact absurd range (by decide)
  apply Reads.placed
  have number := reads_number fits ends
  rw [front] at number ⊢
  refine (reads_valueStart solid _).bind ?_
  rw [if_pos (.inr digit)]
  exact number.bind (reads_pure _ _)

def StandsForItself (c : Char) : Prop :=
  c ≠ '"' ∧ c ≠ '\\' ∧ 0x20 ≤ c.toNat

instance : DecidablePred StandsForItself := fun _ => instDecidableAnd

/-- A text that is written as it is between its quotes. -/
def Plain (name : List Char) : Prop :=
  ∀ c ∈ name, StandsForItself c

instance : DecidablePred Plain := fun name => List.decidableBAll StandsForItself name

theorem reads_textChar (c : Char) (cs : List Char) : Reads textChar (c :: cs) c (c :: cs) :=
  (reads_peek? _).bind (reads_pure c _)

theorem reads_textTail {name : List Char} (plain : Plain name) {fuel : Nat}
    (enough : name.length < fuel) (done : List Char) :
    Reads (textTail fuel done) (name ++ '"' :: rest) (String.ofList (done.reverse ++ name)) rest := by
  obtain ⟨fuel, rfl⟩ := Nat.exists_eq_succ_of_ne_zero (Nat.ne_zero_of_lt enough)
  induction name generalizing fuel done with
  | nil =>
      rw [List.append_nil]
      exact (reads_textChar _ _).bind ((reads_skip _ _).bind (reads_pure _ _))
  | cons c name ih =>
      obtain ⟨quote, slash, printable⟩ := plain c List.mem_cons_self
      refine (reads_textChar _ _).bind ?_
      split
      · exact absurd rfl quote
      · exact absurd rfl slash
      · rw [if_neg (Nat.not_lt.mpr printable)]
        refine (reads_skip _ _).bind ?_
        obtain ⟨fuel, rfl⟩ := Nat.exists_eq_succ_of_ne_zero
          (Nat.ne_zero_of_lt (Nat.lt_of_succ_lt_succ enough))
        have further := ih (fun x there => plain x (List.mem_cons_of_mem c there)) (c :: done) fuel
          (Nat.lt_of_succ_lt_succ enough)
        rwa [List.reverse_cons, List.append_assoc, List.singleton_append] at further

theorem reads_text {name : List Char} (plain : Plain name) :
    Reads text ('"' :: (name ++ '"' :: rest)) (String.ofList name) rest := by
  refine (reads_skip _ _).bind ?_
  intro p
  have enough : name.length < (name ++ '"' :: rest).length + 1 := by
    rw [List.length_append]
    omega
  obtain ⟨q, read⟩ := reads_textTail plain enough [] p
  exact ⟨q, (bind_of_ok _ (t := ⟨name ++ '"' :: rest, p⟩) rfl).trans read⟩

theorem reads_colon (cs : List Char) : Reads colon (':' :: cs) () cs :=
  (reads_token? rfl cs).bind (reads_skip _ _)

theorem reads_closeObject (cs : List Char) : Reads closeObject ('\x7d' :: cs) () cs :=
  (reads_token? rfl cs).bind (reads_skip _ _)

theorem Reads.fieldOnce {m : Reader α} {a : α} (name : String) (reads : Reads m cs a rest) :
    Reads (fieldOnce name none m) (':' :: cs) (some a) rest :=
  (reads_colon cs).bind (reads.bind (reads_pure _ _))

theorem reads_fieldsFrom_end (field : String → α → Reader α) (fuel : Nat) (first : Bool) (done : α)
    (cs : List Char) : Reads (fieldsFrom field fuel first done) ('\x7d' :: cs) done ('\x7d' :: cs) := by
  cases fuel with
  | zero => exact reads_pure _ _
  | succ fuel =>
      refine Reads.bind (a := false) ?_ (reads_pure _ _)
      exact (reads_token? rfl cs).bind (reads_pure _ _)

def separator : Bool → List Char
  | true => []
  | false => [',']

theorem reads_fieldsFrom_field {field : String → α → Reader α} {fuel : Nat} (first : Bool)
    {name : List Char} (plain : Plain name) {done next last : α}
    (value : Reads (field (String.ofList name) done) cs next mid)
    (further : Reads (fieldsFrom field fuel false next) mid last rest) :
    Reads (fieldsFrom field (fuel + 1) first done)
      (separator first ++ '"' :: (name ++ '"' :: cs)) last rest := by
  have follows : Reads (fieldFollows first) (separator first ++ '"' :: (name ++ '"' :: cs)) true
      ('"' :: (name ++ '"' :: cs)) := by
    cases first with
    | true => exact (reads_token? rfl _).bind (reads_pure _ _)
    | false =>
        refine (reads_token? rfl _).bind ?_
        exact (reads_skip _ _).bind ((reads_token? rfl _).bind (reads_pure _ _))
  exact follows.bind ((reads_text plain).bind (value.bind further))

theorem Reads.fields {field : String → α → Reader α} {start a : α}
    (reads : Reads (fieldsFrom field (cs.length + 1) true start) cs a rest) :
    Reads (fields field start) cs a rest :=
  (reads_remaining cs).bind reads

theorem Reads.recordValue {named listed : Reader α} {a : α} (wanted : String)
    (reads : Reads named cs a ('\x7d' :: rest)) :
    Reads (recordValue wanted named listed) ('\x7b' :: cs) a rest := by
  apply Reads.placed
  refine (reads_valueStart rfl _).bind ?_
  exact (reads_skip _ _).bind (reads.bracketed (reads_closeObject rest))

theorem Reads.whole {m : Reader α} {s : String} {a : α} (reads : Reads m s.toList a []) :
    Reader.whole m s = .ok a := by
  obtain ⟨q, read⟩ := reads ⟨1, 0⟩
  unfold Reader.whole
  dsimp only [EStateM.run]
  rw [bind_of_ok _ (s := Cursor.ofText s) read]
  rfl

end Reads

end FilterDispatch.Json.Reader
