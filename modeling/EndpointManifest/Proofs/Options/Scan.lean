import EndpointManifest.Options.Key
import EndpointManifest.Proofs.Delimiter
import EndpointManifest.Proofs.Options.Literal
import EndpointManifest.Proofs.Text.CharClass

/-! The key scan of an object literal meets its keys in order and passes over each value whole,
whatever the value holds. -/

namespace EndpointManifest

open Text

def Entry.keyAt (e : Entry) (pos : Nat) : Key where
  name := e.key.name
  start := pos + e.front.text.length
  valueStart := pos + e.front.text.length +
    (e.key.text ++ (e.beforeColon.text ++ ':' :: e.afterColon.text)).length

/-- The keys of entries that stand one behind the other from `pos` on, with commas between them. -/
def Literal.keysFrom (pos : Nat) : List Entry → List Key
  | [] => []
  | e :: es => e.keyAt pos :: keysFrom (pos + e.padded.length + 1) es

def Literal.keys (o : Literal) : List Key := keysFrom 1 o.entries

namespace Key

theorem scanFrom_skip {c : Char} {u v : Text} (pos : Nat) (h : step c (u ++ v) = .skip v) :
    scanFrom pos (c :: u ++ v) = scanFrom (pos + (c :: u).length) v := by
  rw [List.cons_append, scanFrom.eq_2, h]
  simp only
  rw [if_pos (by simp)]
  congr 1
  simp only [List.length_append, List.length_cons]
  omega

theorem scanFrom_key {c : Char} {name u v : Text} (pos : Nat)
    (h : step c (u ++ v) = .key name v) :
    scanFrom pos (c :: u ++ v) =
      ⟨name, pos, pos + (c :: u).length⟩ :: scanFrom (pos + (c :: u).length) v := by
  have hlen : pos + ((u ++ v).length + 1 - v.length) = pos + (c :: u).length := by
    simp only [List.length_append, List.length_cons]
    omega
  rw [List.cons_append, scanFrom.eq_2, h]
  simp only
  rw [if_pos (by simp), hlen]

def IsPassed (c : Char) : Prop :=
  Delimiter.isOpener c = false ∧ isQuote c = false ∧ isNameStart c = false

theorem scanFrom_passed {u : Text} (h : ∀ c ∈ u, IsPassed c) (pos : Nat) (v : Text) :
    scanFrom pos (u ++ v) = scanFrom (pos + u.length) v := by
  induction u generalizing pos with
  | nil => rfl
  | cons c u ih =>
    obtain ⟨hopener, hquote, hname⟩ := h c (by simp)
    have hstep : step c ([] ++ (u ++ v)) = .skip (u ++ v) := by
      simp [step, hopener, hquote, hname]
    have := scanFrom_skip pos hstep
    rw [List.cons_append, List.nil_append] at this
    rw [List.cons_append, this, ih fun d hd => h d (by simp [hd])]
    congr 1
    simp only [List.length_cons, List.length_nil]
    omega

theorem isPassed_of_isBlank {c : Char} (h : isBlank c = true) : IsPassed c := by
  have hpoints : ∀ n ∈ blankPoints, Delimiter.isOpener (Char.ofNat n) = false ∧
      isQuote (Char.ofNat n) = false ∧ isNameStart (Char.ofNat n) = false := by decide
  simpa [IsPassed, Char.ofNat_toNat] using hpoints _ (mem_blankPoints h)

theorem scanFrom_blanks {bl : Text} (h : AllBlank bl) (pos : Nat) (v : Text) :
    scanFrom pos (bl ++ v) = scanFrom (pos + bl.length) v :=
  scanFrom_passed (fun c hc => isPassed_of_isBlank (h c hc)) pos v

theorem scanFrom_block {c : Char} {rest : Text}
    (h : Delimiter.blockEnd? (c :: rest) = some rest.length) (pos : Nat) (v : Text) :
    scanFrom pos (c :: rest ++ v) = scanFrom (pos + (c :: rest).length) v := by
  have hopener : Delimiter.isOpener c = true := by
    obtain ⟨closer, hcloser, _⟩ := Option.bind_eq_some_iff.1 h
    rw [Delimiter.isOpener, hcloser]
    rfl
  refine scanFrom_skip pos ?_
  have hend := Delimiter.blockEnd?_append (v := v) h
  rw [List.cons_append] at hend
  simp only [step, if_pos hopener, hend, List.drop_succ_cons, List.drop_left]

theorem head_of_colon {bl x : Text} (h : AllBlank bl) {c : Char}
    (hc : (bl ++ ':' :: x).head? = some c) : isKeyChar c = false ∧ isQuote c = false := by
  cases bl with
  | nil =>
    obtain rfl := Option.some.inj hc
    decide
  | cons b bl =>
    obtain rfl := Option.some.inj hc
    have hb : isBlank b = true := h b (by simp)
    exact ⟨isKeyChar_of_isBlank hb, (isPassed_of_isBlank hb).2.1⟩

theorem bare?_eq_some {t name rest : Text} : bare? t = some (name, rest) ↔
    name ≠ [] ∧ (∀ c ∈ name, isKeyChar c = true) ∧
      ∃ bl x, AllBlank bl ∧ t = name ++ (bl ++ ':' :: x) ∧ rest = skipBlanks x := by
  simp only [bare?, Option.bind_eq_bind, Option.bind_eq_some_iff, Option.pure_def,
    Option.some.injEq, Prod.exists, Prod.mk.injEq, run?_eq_some,
    afterMark?_eq_some (c := ':') (by decide)]
  constructor
  · rintro ⟨_, _, ⟨hne, hall, _, rfl⟩, x, ⟨bl, hbl, rfl⟩, rfl, rfl⟩
    exact ⟨hne, hall, bl, x, hbl, rfl, rfl⟩
  · rintro ⟨hne, hall, bl, x, hbl, rfl, rfl⟩
    exact ⟨name, _, ⟨hne, hall, fun c hc => (head_of_colon hbl hc).1, rfl⟩, x, ⟨bl, hbl, rfl⟩, rfl,
      rfl⟩

theorem quoted?_eq_some {t name rest : Text} : quoted? t = some (name, rest) ↔
    ∃ q, (q = '\'' ∨ q = '"') ∧ name ≠ [] ∧ (∀ c ∈ name, isKeyChar c = true) ∧
      ∃ bl x, AllBlank bl ∧ t = q :: name ++ q :: (bl ++ ':' :: x) ∧ rest = skipBlanks x := by
  have hguard (q : Char) (f : Unit → Option (Text × Text)) :
      Option.bind (guard ((q != '`') = true)) f = some (name, rest) ↔
        (q != '`') = true ∧ f () = some (name, rest) := guard_bind_eq_some
  simp only [quoted?, Option.bind_eq_bind, hguard, Option.bind_eq_some_iff, Option.pure_def,
    Option.some.injEq, Prod.exists, Prod.mk.injEq, run?_eq_some, quote?_eq_some, after?_eq_some,
    afterMark?_eq_some (c := ':') (by decide)]
  constructor
  · rintro ⟨q, _, ⟨hq, rfl⟩, hback, _, _, ⟨hne, hall, _, rfl⟩, _, rfl, x, ⟨bl, hbl, rfl⟩, rfl, rfl⟩
    refine ⟨q, ?_, hne, hall, bl, x, hbl, rfl, rfl⟩
    rcases isQuote_iff.1 hq with rfl | rfl | rfl
    · exact .inl rfl
    · exact .inr rfl
    · simp at hback
  · rintro ⟨q, hq, hne, hall, bl, x, hbl, rfl, rfl⟩
    have hclass : isQuote q = true ∧ (q != '`') = true ∧ isKeyChar q = false := by
      rcases hq with rfl | rfl <;> decide
    refine ⟨q, _, ⟨hclass.1, rfl⟩, hclass.2.1, name, _, ⟨hne, hall, ?_, rfl⟩, _, rfl, x,
      ⟨bl, hbl, rfl⟩, rfl, rfl⟩
    rintro c ⟨rfl⟩
    exact hclass.2.2

theorem skipBlanks_colon {bl x : Text} (h : AllBlank bl) : skipBlanks (bl ++ ':' :: x) = ':' :: x :=
  skipBlanks_eq_cons_iff.2 ⟨by decide, bl, h, rfl⟩

theorem isKeyChar_ne {c : Char} (h : isKeyChar c = true) : isQuote c = false ∧ c ≠ '\\' := by
  constructor
  · refine Bool.eq_false_iff.2 fun hq => ?_
    rcases isQuote_iff.1 hq with rfl | rfl | rfl <;> revert h <;> decide
  · rintro rfl
    revert h
    decide

theorem quoteFrom_name {q : Char} {name : Text} (hq : isQuote q = true)
    (h : ∀ c ∈ name, isKeyChar c = true) (v : Text) :
    Delimiter.quoteFrom q (name ++ q :: v) = some name.length := by
  induction name with
  | nil =>
    have hslash : q ≠ '\\' := by
      rintro rfl
      revert hq
      decide
    rw [List.nil_append, Delimiter.quoteFrom_cons hslash, if_pos rfl]
    rfl
  | cons c name ih =>
    obtain ⟨hquote, hslash⟩ := isKeyChar_ne (h c (by simp))
    have hne : c ≠ q := by
      rintro rfl
      rw [hq] at hquote
      cases hquote
    rw [List.cons_append, Delimiter.quoteFrom_cons hslash, if_neg hne,
      ih fun d hd => h d (by simp [hd])]
    rfl

/-- A literal is no key, for no colon follows it. -/
theorem scanFrom_literal {c : Char} {rest v : Text}
    (h : Delimiter.literalEnd? (c :: rest) = some rest.length) (hv : Literal.Closes v) (pos : Nat) :
    scanFrom pos (c :: rest ++ v) = scanFrom (pos + (c :: rest).length) v := by
  have hquote : isQuote c = true := by
    by_contra hq
    rw [Delimiter.literalEnd?, if_neg hq] at h
    cases h
  have hopener : Delimiter.isOpener c = false := by
    rcases isQuote_iff.1 hquote with rfl | rfl | rfl <;> decide
  have hkey : quoted? (c :: rest ++ v) = none := by
    refine Option.eq_none_iff_forall_ne_some.2 fun r hr => ?_
    obtain ⟨q, _, _, hname, bl, x, hbl, ht, _⟩ := quoted?_eq_some.1 hr
    rw [List.cons_append, List.cons_append] at ht
    obtain ⟨rfl, hrest⟩ := List.cons.inj ht
    have hend := Delimiter.literalEnd?_append (v := v) h
    rw [List.cons_append, Delimiter.literalEnd?, if_pos hquote, hrest,
      quoteFrom_name hquote hname] at hend
    have hlen : r.1.length + 1 = rest.length := Option.some.inj hend
    have hvx : v = bl ++ ':' :: x := by
      have hdrop := congrArg (List.drop (r.1.length + 1)) hrest
      rw [hlen, List.drop_left, ← hlen, ← List.drop_drop, List.drop_left] at hdrop
      exact hdrop
    obtain ⟨d, w, hd, hskip⟩ := hv.skipBlanks
    rw [hvx, skipBlanks_colon hbl] at hskip
    rw [← (List.cons.inj hskip).1] at hd
    simp at hd
  refine scanFrom_skip pos ?_
  have hend := Delimiter.literalEnd?_append (v := v) h
  rw [List.cons_append] at hend hkey
  simp only [step, hopener, if_pos hquote, hkey, hend, List.drop_succ_cons, List.drop_left,
    Bool.false_eq_true, if_false]

theorem toNat_of_isAtomChar {c : Char} (h : isAtomChar c = true) : c.toNat < 128 := by
  simp only [isAtomChar, Bool.or_eq_true, beq_iff_eq] at h
  rcases h with (((((h | h) | rfl) | rfl) | rfl) | rfl) | rfl
  · have := (isAsciiLetter_iff c).1 h
    omega
  · have := (isAsciiDigit_iff c).1 h
    omega
  all_goals decide

theorem isAtomChar_ne {c : Char} (h : isAtomChar c = true) :
    isBlank c = false ∧ c ≠ ':' ∧ Delimiter.isOpener c = false ∧ isQuote c = false := by
  have hall : ∀ n < 128, isAtomChar (Char.ofNat n) = true → isBlank (Char.ofNat n) = false ∧
      Char.ofNat n ≠ ':' ∧ Delimiter.isOpener (Char.ofNat n) = false ∧
      isQuote (Char.ofNat n) = false := by decide
  simpa [Char.ofNat_toNat, h] using hall c.toNat (toNat_of_isAtomChar h)

/-- What may follow a number or a dotted name: nothing that goes on with it, and no colon. -/
def EndsAtom (v : Text) : Prop :=
  (∀ c, v.head? = some c → isKeyChar c = false) ∧ (skipBlanks v).head? ≠ some ':'

theorem endsAtom_of_closes {v : Text} (h : Literal.Closes v) : EndsAtom v := by
  constructor
  · obtain ⟨bl, c, rest, hbl, hc, rfl⟩ := h
    intro d hd
    cases bl with
    | nil =>
      obtain rfl := Option.some.inj hd
      rcases hc with rfl | rfl <;> decide
    | cons b bl =>
      obtain rfl := Option.some.inj hd
      exact isKeyChar_of_isBlank (hbl b (by simp))
  · obtain ⟨c, rest, hc, hskip⟩ := h.skipBlanks
    rw [hskip]
    rcases hc with rfl | rfl <;> simp

/-- A name among the characters of an atom is no key. -/
theorem bare?_atom {u v : Text} (hu : ∀ c ∈ u, isAtomChar c = true) (hv : EndsAtom v) :
    bare? (u ++ v) = none := by
  refine Option.eq_none_iff_forall_ne_some.2 fun r hr => ?_
  obtain ⟨_, hname, bl, x, hbl, ht, _⟩ := bare?_eq_some.1 hr
  have hcolon {w : Text} (h : w = bl ++ ':' :: x) : (skipBlanks w).head? = some ':' := by
    rw [h, skipBlanks_colon hbl]
    rfl
  rcases List.append_eq_append_iff.1 ht with ⟨a, ha, hva⟩ | ⟨a, ha, hbx⟩
  · cases a with
    | nil => exact hv.2 (hcolon hva)
    | cons d a =>
      have hd := hv.1 d (by rw [hva]; rfl)
      rw [hname d (by rw [ha]; simp)] at hd
      cases hd
  · cases a with
    | nil => exact hv.2 (hcolon hbx.symm)
    | cons d a =>
      obtain ⟨hblank, hne, _⟩ := isAtomChar_ne (hu d (by rw [ha]; simp))
      have hskip := skipBlanks_colon (x := x) hbl
      rw [hbx, List.cons_append, skipBlanks_cons hblank] at hskip
      exact hne (List.cons.inj hskip).1

theorem dropName_append (u : Text) {v : Text} (hv : EndsAtom v) :
    ∃ w u', u = w ++ u' ∧ (u ++ v).dropWhile isNameChar = u' ++ v := by
  refine ⟨u.takeWhile isNameChar, u.dropWhile isNameChar,
    (List.takeWhile_append_dropWhile ..).symm, ?_⟩
  rw [List.dropWhile_append]
  split
  · next hnil =>
    have hstop : v.dropWhile isNameChar = v := by
      cases v with
      | nil => rfl
      | cons c v =>
        have hc := hv.1 c rfl
        simp only [isKeyChar, Bool.or_eq_false_iff] at hc
        simp [hc.1]
    rw [hstop, List.isEmpty_iff.1 hnil, List.nil_append]
  · rfl

theorem scanFrom_atom {u v : Text} (hu : ∀ c ∈ u, isAtomChar c = true) (hv : EndsAtom v)
    (pos : Nat) : scanFrom pos (u ++ v) = scanFrom (pos + u.length) v := by
  induction hn : u.length using Nat.strong_induction_on generalizing u pos with
  | _ n ih =>
    cases u with
    | nil =>
      subst hn
      rfl
    | cons c u =>
      obtain ⟨_, _, hopener, hquote⟩ := isAtomChar_ne (hu c (by simp))
      have hrest : ∀ d ∈ u, isAtomChar d = true := fun d hd => hu d (by simp [hd])
      by_cases hname : isNameStart c = true
      · -- The scan passes over the letters of a name at once, but not over a point.
        obtain ⟨w, u', rfl, hdrop⟩ := dropName_append u hv
        have hbare := bare?_atom hu hv
        have hstep : step c (w ++ (u' ++ v)) = .skip (u' ++ v) := by
          rw [List.append_assoc] at hdrop
          rw [List.cons_append, List.append_assoc] at hbare
          simp only [step, hopener, hquote, hname, hbare, hdrop, Bool.false_eq_true, if_false, if_true]
        have hskip := scanFrom_skip pos hstep
        have hlen : u'.length < n := by
          simp only [List.length_cons, List.length_append] at hn
          omega
        rw [List.cons_append] at hskip
        rw [List.cons_append, List.append_assoc, hskip,
          ih u'.length hlen (fun d hd => hrest d (by simp [hd])) _ rfl]
        congr 1
        simp only [List.length_cons, List.length_append] at hn ⊢
        omega
      · have hstep : step c ([] ++ (u ++ v)) = .skip (u ++ v) := by
          simp [step, hopener, hquote, hname]
        have hskip := scanFrom_skip pos hstep
        rw [List.cons_append, List.nil_append] at hskip
        rw [List.cons_append, hskip, ih u.length (by rw [← hn]; simp) hrest _ rfl]
        congr 1
        simp only [List.length_cons, List.length_nil] at hn ⊢
        omega

/-- A value is passed over, whatever it holds. -/
theorem scanFrom_value {value v : Text} (h : IsValue value) (hv : Literal.Closes v) (pos : Nat) :
    scanFrom pos (value ++ v) = scanFrom (pos + value.length) v := by
  cases h with
  | block h => exact scanFrom_block h pos v
  | literal h => exact scanFrom_literal h hv pos
  | atom h => exact scanFrom_atom h (endsAtom_of_closes hv) pos
  | @call c rest arguments gap hstart hname h =>
    have hatom : ∀ d ∈ c :: rest, isAtomChar d = true := by
      simp only [List.mem_cons, forall_eq_or_imp]
      refine ⟨?_, fun d hd => (hname d hd).1⟩
      simp only [isNameStart, Bool.or_eq_true] at hstart
      rcases hstart with (h | h) | h <;> simp [isAtomChar, h]
    have hends : EndsAtom (gap.text ++ ('(' :: arguments ++ v)) := by
      constructor
      · intro d hd
        cases hgap : gap.text with
        | nil =>
          rw [hgap] at hd
          obtain rfl := Option.some.inj hd
          decide
        | cons b bl =>
          rw [hgap] at hd
          obtain rfl := Option.some.inj hd
          exact isKeyChar_of_isBlank (gap.blank b (by simp [hgap]))
      · rw [skipBlanks_append gap.blank, List.cons_append, skipBlanks_cons (by decide)]
        simp
    rw [List.append_assoc, List.append_assoc, scanFrom_atom hatom hends,
      scanFrom_blanks gap.blank, scanFrom_block h]
    congr 1
    simp only [List.length_append]
    omega

theorem head_of_isValue {value : Text} (h : IsValue value) :
    ∃ c rest, value = c :: rest ∧ isBlank c = false := by
  cases h with
  | @block c rest h =>
    obtain ⟨closer, hcloser, _⟩ := Option.bind_eq_some_iff.1 h
    refine ⟨c, rest, rfl, Bool.eq_false_iff.2 fun hc => ?_⟩
    have := (isPassed_of_isBlank hc).1
    rw [Delimiter.isOpener, hcloser] at this
    cases this
  | @literal c rest h =>
    refine ⟨c, rest, rfl, isBlank_quote ?_⟩
    by_contra hq
    rw [Delimiter.literalEnd?, if_neg hq] at h
    cases h
  | @atom c rest h => exact ⟨c, rest, rfl, (isAtomChar_ne (h c (by simp))).1⟩
  | @call c rest arguments gap hstart hname h =>
    refine ⟨c, _, rfl, Bool.eq_false_iff.2 fun hc => ?_⟩
    rw [(isPassed_of_isBlank hc).2.2] at hstart
    cases hstart

theorem isNameStart_ne {c : Char} (h : isNameStart c = true) :
    Delimiter.isOpener c = false ∧ isQuote c = false ∧ isKeyChar c = true := by
  simp only [isNameStart, Bool.or_eq_true, beq_iff_eq] at h
  rcases h with (h | rfl) | rfl
  · have hkey := isKeyChar_of_isAsciiLetter h
    have hatom : isAtomChar c = true := by simp [isAtomChar, h]
    obtain ⟨_, _, hopener, hquote⟩ := isAtomChar_ne hatom
    exact ⟨hopener, hquote, hkey⟩
  all_goals decide

/-- The scan reads a key as far as its value. -/
theorem step_key {key : WrittenKey} (hkey : key.WellFormed) (hplain : key.IsPlain) {bl bl' v : Text}
    (hbl : AllBlank bl) (hbl' : AllBlank bl') (hv : skipBlanks v = v) :
    ∃ c u, key.text ++ (bl ++ ':' :: bl') = c :: u ∧ step c (u ++ v) = .key key.name v := by
  have hskip : v = skipBlanks (bl' ++ v) := by rw [skipBlanks_append hbl', hv]
  cases key with
  | bare name =>
    obtain ⟨c, rest, rfl, hstart, hrest⟩ := hkey
    obtain ⟨hopener, hquote, hc⟩ := isNameStart_ne hstart
    refine ⟨c, rest ++ (bl ++ ':' :: bl'), rfl, ?_⟩
    have hall : ∀ d ∈ c :: rest, isKeyChar d = true := by
      simp only [List.mem_cons, forall_eq_or_imp]
      exact ⟨hc, fun d hd => by simp [isKeyChar, hrest d hd]⟩
    have hbare : bare? (c :: (rest ++ (bl ++ ':' :: bl') ++ v)) = some (c :: rest, v) :=
      bare?_eq_some.2 ⟨by simp, hall, bl, bl' ++ v, hbl, by simp, hskip⟩
    simp only [step, hopener, hquote, hstart, hbare, Bool.false_eq_true, if_false, if_true]
    rfl
  | quoted q name =>
    obtain ⟨hq, _⟩ := hkey
    obtain ⟨hne, hall⟩ := hplain
    have hclass : Delimiter.isOpener q = false ∧ isQuote q = true := by
      rcases hq with rfl | rfl <;> decide
    refine ⟨q, name ++ [q] ++ (bl ++ ':' :: bl'), rfl, ?_⟩
    have hquoted : quoted? (q :: (name ++ [q] ++ (bl ++ ':' :: bl') ++ v)) = some (name, v) :=
      quoted?_eq_some.2 ⟨q, hq, hne, hall, bl, bl' ++ v, hbl, by simp, hskip⟩
    simp only [step, hclass.1, hclass.2, hquoted, Bool.false_eq_true, if_false, if_true]
    rfl

/-- A scanned key at an entry of the text: both start at one place, and so do their values. -/
def IsAt (t : Text) (key : Key) (e : Entry) : Prop :=
  key.name = e.key.name ∧ ∃ front back, t = front ++ (e.text ++ back) ∧ Literal.Closes back ∧
    key.start = front.length ∧ key.valueStart + e.value.length = front.length + e.text.length

theorem scanFrom_entry {e : Entry} (hplain : e.key.IsPlain) {v : Text} (hv : Literal.Closes v)
    (pos : Nat) :
    scanFrom pos (e.padded ++ v) = e.keyAt pos :: scanFrom (pos + e.padded.length) v := by
  have hback : Literal.Closes (e.back.text ++ v) := Literal.closes_append e.back.blank hv
  obtain ⟨d, rest, hvalue, hd⟩ := head_of_isValue e.isValue
  have hstop : skipBlanks (e.value ++ (e.back.text ++ v)) = e.value ++ (e.back.text ++ v) := by
    rw [hvalue, List.cons_append, skipBlanks_cons hd]
  obtain ⟨c, u, hkey, hstep⟩ := step_key e.isKey hplain e.beforeColon.blank e.afterColon.blank hstop
  have hrender : e.padded ++ v = e.front.text ++ (c :: u ++ (e.value ++ (e.back.text ++ v))) := by
    rw [← hkey]
    simp [Entry.padded, Entry.text]
  rw [hrender, scanFrom_blanks e.front.blank, scanFrom_key _ hstep, scanFrom_value e.isValue hback,
    scanFrom_blanks e.back.blank, ← hkey]
  congr 2
  simp only [Entry.padded, Entry.text, List.length_append, List.length_cons]
  omega

theorem scanFrom_close (o : Literal) (pos : Nat) : scanFrom pos o.close = [] := by
  have hpassed : ∀ c ∈ o.close, IsPassed c := by
    have hmarks : IsPassed ',' ∧ IsPassed '}' := by unfold IsPassed; decide
    intro c hc
    simp only [Literal.close, List.mem_append, List.mem_singleton] at hc
    rcases hc with hc | hc | rfl
    · split at hc
      · obtain rfl := List.mem_singleton.1 hc
        exact hmarks.1
      · cases hc
    · exact isPassed_of_isBlank (o.ending.blank c hc)
    · exact hmarks.2
  have hscan := scanFrom_passed hpassed pos []
  rw [List.append_nil] at hscan
  rw [hscan]
  simp [scanFrom]

theorem scanFrom_entries (o : Literal) {es : List Entry} (hplain : ∀ e ∈ es, e.key.IsPlain)
    (pos : Nat) : scanFrom pos (Literal.renderEntries o.close es) = Literal.keysFrom pos es := by
  induction es generalizing pos with
  | nil => rw [Literal.renderEntries, scanFrom_close, Literal.keysFrom]
  | cons e es ih =>
    rw [Literal.renderEntries_behind, scanFrom_entry (hplain e (by simp))
      (Literal.closes_behind o.closes_close es), Literal.keysFrom]
    congr 1
    cases es with
    | nil => rw [Literal.behind, scanFrom_close, Literal.keysFrom]
    | cons e' es =>
      have hcomma : ∀ c ∈ [','], IsPassed c := by unfold IsPassed; decide
      have hpass := scanFrom_passed hcomma (pos + e.padded.length)
        (Literal.renderEntries o.close (e' :: es))
      rw [List.singleton_append] at hpass
      rw [Literal.behind, hpass, ih fun e'' he'' => hplain e'' (List.mem_cons_of_mem _ he'')]
      rfl

/-- Each key stands where its entry does. -/
theorem isAt_keysFrom {ending : Text} (hending : Literal.Closes ending) (es : List Entry)
    (front : Text) : List.Forall₂ (IsAt (front ++ Literal.renderEntries ending es))
      (Literal.keysFrom front.length es) es := by
  induction es generalizing front with
  | nil => exact .nil
  | cons e es ih =>
    rw [Literal.renderEntries_behind, Literal.keysFrom]
    refine .cons ⟨rfl, front ++ e.front.text, e.back.text ++ Literal.behind ending es, ?_, ?_, ?_,
      ?_⟩ ?_
    · simp [Entry.padded]
    · exact Literal.closes_append e.back.blank (Literal.closes_behind hending es)
    · exact List.length_append.symm
    · simp only [Entry.keyAt, Entry.text, List.length_append, List.length_cons]
      omega
    · cases es with
      | nil => exact .nil
      | cons e' es =>
        have hnext := ih (front ++ e.padded ++ [','])
        simpa [Literal.behind, List.append_assoc, Nat.add_assoc] using hnext

/-- The keys of an object literal are those of its entries, each once and in order. -/
theorem scan_render {o : Literal} (hplain : ∀ e ∈ o.entries, e.key.IsPlain) :
    scan o.render = o.keys :=
  scanFrom_entries o hplain 1

theorem isAt_keys (o : Literal) : List.Forall₂ (IsAt o.render) o.keys o.entries :=
  isAt_keysFrom o.closes_close o.entries ['{']

end Key
end EndpointManifest
