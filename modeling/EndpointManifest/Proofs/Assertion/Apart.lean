import EndpointManifest.Proofs.Assertion.Reading

/-! No assertion about the status begins inside another. Every assertion begins with a name that ends
in t and a parenthesis behind it. Inside an assertion about the status each parenthesis that opens
stands behind another letter, which a scan of the word from the left shows, part by part. -/

namespace EndpointManifest.Assertion

open Text

variable {b b' b'' : Bool} {L M : Language Char} {t u v w : Text}

/-- Whether the last character that is not blank is the letter t, after one more character. -/
def tBehind (b : Bool) (c : Char) : Bool := if isBlank c then b else sameLetter 't' c

/-- No parenthesis opens behind the letter t, blanks apart. -/
def Calm : Bool → Text → Prop
  | _, [] => True
  | b, c :: t => (c = '(' → b = false) ∧ Calm (tBehind b c) t

theorem calm_append : Calm b (u ++ v) ↔ Calm b u ∧ Calm (u.foldl tBehind b) v := by
  induction u generalizing b with
  | nil => simp [Calm]
  | cons c u ih => simp [Calm, ih, and_assoc]

theorem calm_of_not_mem (h : '(' ∉ t) (b : Bool) : Calm b t := by
  induction t generalizing b with
  | nil => trivial
  | cons c t ih =>
    simp only [List.mem_cons, not_or] at h
    exact ⟨fun hc => absurd hc.symm h.1, ih h.2 _⟩

theorem foldl_blanks {bl : Text} (h : AllBlank bl) (b : Bool) : bl.foldl tBehind b = b := by
  induction bl generalizing b with
  | nil => rfl
  | cons c bl ih =>
    have hc : tBehind b c = b := by rw [tBehind, if_pos (h c (by simp))]
    rw [List.foldl_cons, hc]
    exact ih (fun d hd => h d (by simp [hd])) b

theorem foldl_snoc {c : Char} (hc : isBlank c = false) (u : Text) (b : Bool) :
    (u ++ [c]).foldl tBehind b = sameLetter 't' c := by
  simp [tBehind, hc]

/-- The words of the language are calm behind `b`, and leave `b'`. -/
def Scans (b : Bool) (L : Language Char) (b' : Bool) : Prop :=
  ∀ w ∈ L, Calm b w ∧ w.foldl tBehind b = b'

theorem Scans.mul (h : Scans b L b') (h' : Scans b' M b'') : Scans b (L * M) b'' := by
  rintro _ ⟨w, hw, w', hw', rfl⟩
  obtain ⟨hcalm, hend⟩ := h w hw
  obtain ⟨hcalm', hend'⟩ := h' w' hw'
  refine ⟨calm_append.2 ⟨hcalm, by rwa [hend]⟩, ?_⟩
  rw [List.foldl_append, hend, hend']

theorem Scans.add (h : Scans b L b') (h' : Scans b M b') : Scans b (L + M) b' := by
  intro w hw
  rcases (Language.mem_add L M w).1 hw with hw | hw
  · exact h w hw
  · exact h' w hw

theorem scans_one (b : Bool) : Scans b 1 b := by
  rintro w rfl
  exact ⟨trivial, rfl⟩

theorem scans_blanks (b : Bool) : Scans b blanks b := by
  intro w hw
  exact ⟨calm_of_not_mem (not_mem_blanks hw (by decide)) b, foldl_blanks hw b⟩

theorem scans_open : Scans false (mark '(') false := by
  rintro _ ⟨bl, hbl, rfl⟩
  refine ⟨calm_append.2 ⟨calm_of_not_mem (not_mem_blanks hbl (by decide)) _, ?_⟩, ?_⟩
  · rw [foldl_blanks hbl]
    exact ⟨fun _ => rfl, trivial⟩
  · rw [foldl_snoc (by decide)]
    decide

theorem scans_closed (h : ∀ w ∈ L, '(' ∉ w) (b : Bool) : Scans b (L * mark ')') false := by
  rintro _ ⟨w, hw, _, ⟨bl, hbl, rfl⟩, rfl⟩
  refine ⟨calm_of_not_mem ?_ b, ?_⟩
  · simp [h w hw, not_mem_blanks hbl (show isBlank '(' = false by decide)]
  · show (w ++ (bl ++ [')'])).foldl tBehind b = false
    rw [← List.append_assoc, foldl_snoc (by decide)]
    decide

theorem scans_mark {c : Char} (hc : c ≠ '(') (hblank : isBlank c = false)
    (ht : sameLetter 't' c = false) (b : Bool) : Scans b (mark c) false := by
  rintro _ ⟨bl, hbl, rfl⟩
  refine ⟨calm_of_not_mem ?_ b, ?_⟩
  · simp [hc.symm, not_mem_blanks hbl (show isBlank '(' = false by decide)]
  · rw [foldl_snoc hblank, ht]

theorem last_key {name : Text} (hne : name ≠ []) (hw : w ∈ L * anyCase name) :
    w.getLast?.map letterKey = name.getLast?.map letterKey := by
  obtain ⟨x, _, n, hn, rfl⟩ := hw
  have hnne : n ≠ [] := by
    rintro rfl
    cases hn
    exact hne rfl
  show (x ++ n).getLast?.map letterKey = _
  rw [List.getLast?_append_of_ne_nil x hnne, ← List.getLast?_map, ← List.getLast?_map, hn.keys_eq]

theorem scans_solid {name : Text} (hne : name ≠ [])
    (hlast : name.getLast?.map letterKey ≠ some (letterKey 't'))
    (hsolid : ∀ w ∈ L * anyCase name, Solid w) (b : Bool) :
    Scans b (L * anyCase name) false := by
  intro w hw
  have hkey := last_key hne hw
  have hw := hsolid w hw
  obtain ⟨x, c, rfl, hc⟩ := hw.last
  refine ⟨calm_of_not_mem (fun h => absurd (hw.no_paren _ h) (by decide)) b, ?_⟩
  rw [foldl_snoc hc]
  refine beq_eq_false_iff_ne.2 fun h => hlast ?_
  rw [← hkey, h]
  simp

section Name

variable {name : Text} (hne : name ≠ []) (hname : ∀ c ∈ name, isAsciiLetter c = true)
  (hlast : name.getLast?.map letterKey ≠ some (letterKey 't'))
include hne hname hlast

theorem scans_name (b : Bool) : Scans b (anyCase name) false := by
  rw [← one_mul (anyCase name)]
  refine scans_solid hne hlast ?_ b
  rintro _ ⟨_, rfl, n, hn, rfl⟩
  exact solid_of_sameLetters hne hname hn

theorem scans_subject (b : Bool) : Scans b (awaited * member name) false := by
  rw [member, ← mul_assoc]
  refine scans_solid hne hlast ?_ b
  rw [mul_assoc]
  rintro _ ⟨w, hw, s, hs, rfl⟩
  exact solid_awaited hw (solid_member hne hname s hs)

end Name

theorem scans_emptyParens : Scans false emptyParens false :=
  scans_open.mul (scans_mark (by decide) (by decide) (by decide) false)

theorem scans_closing : Scans false closing false :=
  ((scans_one false).add scans_emptyParens).mul
    ((scans_mark (by decide) (by decide) (by decide) _).mul
      ((scans_mark (by decide) (by decide) (by decide) _).mul (scans_blanks _)))

theorem scans_argument (h : ∀ w ∈ L, '(' ∉ w) : Scans false (argument L) false :=
  scans_open.mul ((scans_blanks false).mul (scans_closed h false))

theorem scans_statusMatcher (code : Nat) : Scans false (statusMatcher code) false := by
  have hname : Scans false
      (anyCase "tobe".toList + anyCase "toequal".toList + anyCase "tostrictequal".toList) false :=
    ((scans_name (by decide) (by decide) (by decide) _).add
      (scans_name (by decide) (by decide) (by decide) _)).add
      (scans_name (by decide) (by decide) (by decide) _)
  refine hname.mul (scans_argument ?_)
  rintro _ ⟨a, b, c, x, y, z, rfl, hx, hy, hz, _⟩ hmem
  have hnone : digitValue? '(' = none := by decide +kernel
  simp only [List.mem_cons, List.not_mem_nil, or_false] at hmem
  rcases hmem with rfl | rfl | rfl
  · rw [hnone] at hx; cases hx
  · rw [hnone] at hy; cases hy
  · rw [hnone] at hz; cases hz

theorem scans_truthMatcher : Scans false truthMatcher false := by
  have htruthy : Scans false (anyCase "tobetruthy".toList * emptyParens) false :=
    (scans_name (by decide) (by decide) (by decide) _).mul scans_emptyParens
  refine htruthy.add ((scans_name (by decide) (by decide) (by decide) _).mul (scans_argument ?_))
  intro w hw hmem
  exact absurd (hw.latin (by decide) _ hmem) (by decide)

/-! ### Assertions inside assertions -/

def Closes (L : Language Char) : Prop := ∀ w ∈ L, ∃ x, w = x ++ [')']

theorem Closes.mul (h : Closes M) : Closes (L * M) := by
  rintro _ ⟨w, _, w', hw', rfl⟩
  obtain ⟨x, rfl⟩ := h w' hw'
  exact ⟨w ++ x, by simp⟩

theorem Closes.add (h : Closes L) (h' : Closes M) : Closes (L + M) := by
  intro w hw
  rcases (Language.mem_add L M w).1 hw with hw | hw
  · exact h w hw
  · exact h' w hw

theorem closes_mark : Closes (mark ')') := by
  rintro _ ⟨bl, _, rfl⟩
  exact ⟨bl, rfl⟩

theorem closes_statusMatcher (code : Nat) : Closes (statusMatcher code) :=
  closes_mark.mul.mul.mul.mul

theorem closes_truthMatcher : Closes truthMatcher :=
  closes_mark.mul.mul.add closes_mark.mul.mul.mul.mul

theorem closes_containMatcher (text : Text) : Closes (containMatcher text) :=
  closes_mark.mul.mul.mul.mul

structure Guarded (w : Text) : Prop where
  front : ∃ e bl m, SameLetters "expect".toList e ∧ AllBlank bl ∧ w = e ++ (bl ++ '(' :: m) ∧
    Calm false m
  last : ∃ x, w = x ++ [')']

theorem guarded_expecting {name : Text} (hne : name ≠ [])
    (hname : ∀ c ∈ name, isAsciiLetter c = true)
    (hlast : name.getLast?.map letterKey ≠ some (letterKey 't')) (hM : Scans false M false)
    (hcloses : Closes M) : ∀ w ∈ expecting (member name) * M, Guarded w := by
  intro w hw
  refine ⟨?_, hcloses.mul w hw⟩
  have hback : Scans false (blanks * ((awaited * member name) * (closing * M))) false :=
    (scans_blanks false).mul ((scans_subject hne hname hlast false).mul (scans_closing.mul hM))
  simp only [expecting, opening, mul_assoc] at hw hback
  obtain ⟨e, he, _, ⟨_, ⟨bl, hbl, rfl⟩, m, hm, rfl⟩, rfl⟩ := hw
  exact ⟨e, bl, m, he, hbl, by simp, (hback m hm).1⟩

theorem guarded_status {code : Nat} : ∀ w ∈ statusAssertion code, Guarded w :=
  guarded_expecting (by decide) (by decide) (by decide) (scans_statusMatcher code)
    (closes_statusMatcher code)

theorem guarded_ok : ∀ w ∈ okAssertion, Guarded w :=
  guarded_expecting (by decide) (by decide) (by decide) scans_truthMatcher closes_truthMatcher

theorem expect_end {e : Text} (he : SameLetters "expect".toList e) :
    ∃ x c, e = x ++ [c] ∧ isBlank c = false ∧ sameLetter 't' c = true := by
  have hmem : e ∈ anyCase "expect".toList := he
  have hkey := last_key (L := 1) (by decide) (Language.append_mem_mul rfl hmem)
  obtain ⟨x, c, rfl, hc⟩ := (solid_of_sameLetters (by decide) (by decide) he).last
  refine ⟨x, c, rfl, hc, beq_iff_eq.2 ?_⟩
  have : some (letterKey c) = some (letterKey 't') := by simpa using hkey
  exact (Option.some.inj this).symm

theorem foldl_expect {e bl : Text} (he : SameLetters "expect".toList e) (hbl : AllBlank bl)
    (u : Text) (b : Bool) : (u ++ (e ++ bl)).foldl tBehind b = true := by
  obtain ⟨x, c, rfl, hc, ht⟩ := expect_end he
  rw [← List.append_assoc, ← List.append_assoc, List.foldl_append, foldl_blanks hbl,
    foldl_snoc hc, ht]

theorem expect_unique {u e e' bl bl' : Text} (he : SameLetters "expect".toList e)
    (he' : SameLetters "expect".toList e') (hbl : AllBlank bl) (hbl' : AllBlank bl')
    (h : u ++ (e ++ bl) = e' ++ bl') : u = [] := by
  have hlen := he.length_eq.symm.trans he'.length_eq
  obtain ⟨x, c, rfl, hc, _⟩ := expect_end he
  obtain ⟨x', c', rfl, hc', _⟩ := expect_end he'
  have hsame : u ++ x = x' := by
    refine (blanks_unique hc hc' hbl hbl' ?_).1
    simpa using h
  rw [← hsame] at hlen
  simpa using hlen

/-- A parenthesis behind the word's own is not the one of an `expect`: within the word the scan is
calm there, and the word's last parenthesis is part of no name. -/
theorem Guarded.apart_behind {rest v bl bl' e e' m z : Text} (hw : Guarded w)
    (he : SameLetters "expect".toList e) (hbl : AllBlank bl)
    (hword : w = e' ++ (bl' ++ '(' :: m)) (hcalm : Calm false m)
    (hfront : u ++ (e ++ bl) = e' ++ bl' ++ '(' :: z) (hback : m ++ rest = z ++ '(' :: v) :
    w.length ≤ u.length := by
  have hparen := (solid_of_sameLetters (by decide) (by decide) he).not_paren hbl
  have hwhere : (∃ a, z = m ++ a) ∨ ∃ a, m = z ++ '(' :: a := by
    rcases List.append_eq_append_iff.1 hback with ⟨a, hz, _⟩ | ⟨a, hm, ha⟩
    · exact .inl ⟨a, hz⟩
    cases a with
    | nil => exact .inl ⟨[], by simp [hm]⟩
    | cons d a =>
      obtain ⟨rfl, _⟩ := List.cons.inj ha
      exact .inr ⟨a, hm⟩
  rcases hwhere with ⟨a, rfl⟩ | ⟨a, rfl⟩
  · obtain ⟨y, hy⟩ := hw.last
    have hlong : u ++ (e ++ bl) = y ++ ')' :: a := by
      have hend : w ++ a = y ++ ')' :: a := by simp [hy]
      rw [hfront, ← hend, hword]
      simp
    rcases List.append_eq_append_iff.1 hlong with ⟨d, _, hin⟩ | ⟨d, rfl, hin⟩
    · exact absurd (hparen ')' (by simp [hin])) (by decide)
    · cases d with
      | nil =>
        have hclose : ')' ∈ e ++ bl := by
          rw [show e ++ bl = ')' :: a from hin.symm]
          exact .head a
        exact absurd (hparen ')' hclose) (by decide)
      | cons l d => simp [hy]
  · exfalso
    have hcalm : z.foldl tBehind false = false := (calm_append.1 hcalm).2.1 rfl
    have hreset : ∀ b, tBehind b '(' = false := by decide
    have hstate := foldl_expect he hbl u false
    rw [hfront, List.foldl_append, List.foldl_cons, hreset, hcalm] at hstate
    cases hstate

/-- Inside a guarded word `expect` and a parenthesis stand nowhere. -/
theorem Guarded.apart {rest v bl e : Text} (hw : Guarded w) (he : SameLetters "expect".toList e)
    (hbl : AllBlank bl) (h : w ++ rest = u ++ (e ++ (bl ++ '(' :: v))) :
    u = [] ∨ w.length ≤ u.length := by
  obtain ⟨e', bl', m, he', hbl', hword, hcalm⟩ := hw.front
  have hparen' := (solid_of_sameLetters (by decide) (by decide) he').not_paren hbl'
  have hopen : ∀ d ∈ e' ++ bl', (d == '(') = false := by
    intro d hd
    refine beq_eq_false_iff_ne.2 ?_
    rintro rfl
    exact absurd (hparen' _ hd) (by decide)
  have hsplit : (e' ++ bl') ++ '(' :: (m ++ rest) = (u ++ (e ++ bl)) ++ '(' :: v := by
    rw [hword] at h
    simpa using h
  -- the two parentheses are one, or the word's own stands before the other
  rcases split_first hopen (beq_self_eq_true '(') hsplit with ⟨hfront, _, rfl⟩ | ⟨z, hfront, hback⟩
  · exact .inl (expect_unique he he' hbl hbl' hfront)
  · exact .inr (hw.apart_behind he hbl hword hcalm hfront hback)

theorem apart_of_guarded {α : Type} {p : Pattern α}
    (hp : ∀ b t r, p b t = some r → ∃ w, Guarded w ∧ t = w ++ r.2) : Apart p := by
  intro b c t a rest h
  obtain ⟨w, hw, ht⟩ := hp b (c :: t) (a, rest) h
  obtain ⟨y, hy⟩ := hw.last
  obtain ⟨d, m, rfl⟩ := List.exists_cons_of_ne_nil (l := w) (by simp [hy])
  obtain ⟨rfl, rfl⟩ := List.cons.inj ht
  refine ⟨m, rfl, quiet_of_no_match ?_⟩
  rintro x d y r rfl hmatch
  obtain ⟨w', hw', hsplit⟩ := hp _ _ r hmatch
  obtain ⟨e, bl, m', he, hbl, rfl, _⟩ := hw'.front
  have hinside : (c :: (x ++ d :: y)) ++ rest = (c :: x) ++ (e ++ (bl ++ '(' :: (m' ++ r.2))) := by
    have hsplit : d :: y ++ rest = e ++ (bl ++ '(' :: (m' ++ r.2)) := by simpa using hsplit
    rw [← hsplit]
    simp
  rcases hw.apart he hbl hinside with hnil | hlong
  · cases hnil
  · simp only [List.length_cons, List.length_append] at hlong
    omega

theorem apart_statusPattern : Apart statusPattern := by
  refine apart_of_guarded fun b t r h => ?_
  obtain ⟨w, hw, _, rfl, rfl⟩ := statusPattern_eq_some.1 h
  exact ⟨w, guarded_status w hw, rfl⟩

theorem apart_okPattern : Apart okPattern := by
  refine apart_of_guarded fun b t r h => ?_
  obtain ⟨_, w, hw, _, rfl, rfl⟩ := okPattern_eq_some.1 h
  exact ⟨w, guarded_ok w hw, rfl⟩

/-! ### Two assertions at one place -/

theorem atParen_of_begins_mark {c : Char} {p : Text → Prop} (hc : isParen c = true)
    (h : Begins (mark c) p t) : AtParen t := by
  obtain ⟨_, ⟨bl, hbl, rfl⟩, rest, rfl, _⟩ := h
  exact ⟨bl, c, rest, hbl, hc, by simp⟩

theorem atParen_of_begins_closing {p : Text → Prop} (h : Begins closing p t) : AtParen t := by
  simp only [closing, add_mul, begins_add, one_mul, emptyParens, mul_assoc, begins_mul] at h
  rcases h with h | h
  · exact atParen_of_begins_mark (by decide) h
  · exact atParen_of_begins_mark (by decide) h

/-- The subject of an assertion is what stands between `expect(` and the next parenthesis. -/
theorem subject_unique {S S' : Language Char} {p q : Text → Prop} (hS : ∀ w ∈ S, Solid w)
    (hS' : ∀ w ∈ S', Solid w) (h : Begins (expecting S) p t) (h' : Begins (expecting S') q t) :
    ∃ w, w ∈ awaited * S ∧ w ∈ awaited * S' := by
  have hread {S : Language Char} {p : Text → Prop} (hS : ∀ w ∈ S, Solid w)
      (h : Begins (expecting S) p t) : ∃ u, opening? t = some u ∧
        ∃ w ∈ awaited * S, ∃ v, u = w ++ v ∧ Solid w ∧ AtParen v := by
    rw [expecting, ← mul_assoc awaited, begins_mul, begins_mul] at h
    obtain ⟨x, hx, u, rfl, w, hw, v, rfl, hv⟩ := h
    have hsolid : Solid w := by
      obtain ⟨y, hy, s, hs, rfl⟩ := hw
      exact solid_awaited hy (hS s hs)
    exact ⟨w ++ v, (takes_opening _ _ (hsolid.flush v)).2 ⟨x, hx, w ++ v, rfl, rfl⟩, w, hw, v, rfl,
      hsolid, atParen_of_begins_closing hv⟩
  obtain ⟨u, hu, w, hw, v, rfl, hsolid, hparen⟩ := hread hS h
  obtain ⟨u', hu', w', hw', v', rfl, hsolid', hparen'⟩ := hread hS' h'
  rw [hu, Option.some.injEq] at hu'
  obtain ⟨rfl, _⟩ := hsolid.unique hsolid' hparen hparen' hu'
  exact ⟨w, hw, hw'⟩

/-- A status and a success are asserted of subjects that end in different letters. -/
theorem not_both_asserted {code : Nat} (h : ∃ w ∈ statusAssertion code, w <+: t)
    (h' : ∃ w ∈ okAssertion, w <+: t) : False := by
  obtain ⟨_, h⟩ := exists_begins_eq.2 h
  obtain ⟨_, h'⟩ := exists_begins_eq.2 h'
  rw [statusAssertion, begins_mul] at h
  rw [okAssertion, begins_mul] at h'
  obtain ⟨w, hw, hw'⟩ := subject_unique (solid_member (by decide) (by decide))
    (solid_member (by decide) (by decide)) h h'
  rw [member, ← mul_assoc] at hw hw'
  have hkey := (last_key (by decide) hw).symm.trans (last_key (by decide) hw')
  exact absurd hkey (by decide)

end EndpointManifest.Assertion
