import EndpointManifest.Proofs.Assertion
import EndpointManifest.Proofs.Script.Calls

/-! What is asserted behind a request of a script: the status of its own test. A window that reaches
over the next tests finds no text there, for no parenthesis of a script stands behind an `n`. -/

namespace EndpointManifest.Script

open Text Assertion

def solidEnd (before : Option Char) (t : Text) : Option Char :=
  t.foldl (fun b c => if isBlank c then b else some c) before

theorem solidEnd_append (b : Option Char) (u v : Text) :
    solidEnd b (u ++ v) = solidEnd (solidEnd b u) v := List.foldl_append

theorem solidEnd_blanks {bl : Text} (h : AllBlank bl) (b : Option Char) : solidEnd b bl = b := by
  induction bl generalizing b with
  | nil => rfl
  | cons c bl ih =>
    unfold solidEnd
    rw [List.foldl_cons, if_pos (h c (by simp))]
    exact ih (fun d hd => h d (by simp [hd])) b

theorem solidEnd_concat {c : Char} (hc : isBlank c = false) (b : Option Char) (u : Text) {bl : Text}
    (hbl : AllBlank bl) : solidEnd b (u ++ c :: bl) = some c := by
  rw [solidEnd_append, ← List.singleton_append, solidEnd_append, solidEnd_blanks hbl]
  simp [solidEnd, hc]

/-- No opening parenthesis stands behind an `n`, blanks apart. -/
def Unled : (before : Option Char) → Text → Prop
  | _, [] => True
  | b, c :: t => (c = '(' → b.any (sameLetter 'n') = false) ∧ Unled (solidEnd b [c]) t

theorem unled_append {b : Option Char} {u v : Text} :
    Unled b (u ++ v) ↔ Unled b u ∧ Unled (solidEnd b u) v := by
  induction u generalizing b with
  | nil => simp [Unled, solidEnd]
  | cons c u ih =>
    rw [List.cons_append, Unled, Unled, ih, and_assoc]
    rfl

theorem unled_of_not_mem {u : Text} (h : '(' ∉ u) (b : Option Char) : Unled b u := by
  induction u generalizing b with
  | nil => trivial
  | cons c u ih =>
    simp only [List.mem_cons, not_or] at h
    exact ⟨fun hc => absurd hc.symm h.1, ih h.2 _⟩

theorem Unled.not_letter {b : Option Char} {front bl rest : Text} {c : Char}
    (h : Unled b (front ++ c :: (bl ++ '(' :: rest))) (hbl : AllBlank bl) :
    sameLetter 'n' c = false := by
  by_cases hc : sameLetter 'n' c = true
  · have hblank := isBlank_latin (isLatinLetter_of_sameLetter (by decide) hc)
    rw [← List.cons_append, ← List.append_assoc] at h
    have hparen := ((unled_append.1 h).2).1 rfl
    rw [solidEnd_concat hblank b front hbl] at hparen
    exact hparen
  · simpa using hc

theorem unled_pass {b : Option Char} {u v : Text} {c : Char} (hu : '(' ∉ u)
    (hend : solidEnd b u = some c) (hc : sameLetter 'n' c = false) (h : Unled (some '(') v) :
    Unled b (u ++ '(' :: v) := by
  apply unled_append.2
  rw [hend]
  exact ⟨unled_of_not_mem hu b, fun _ => hc, h⟩

namespace Test

theorem not_mem_endPart (e : Test) : '(' ∉ e.endPart := by
  obtain ⟨_, _, _, _, hdigits, _⟩ := digits_of_status e.status_range
  have hstatus : '(' ∉ ofNat e.status := by
    intro hmem
    have := hdigits _ hmem
    revert this
    decide
  have hfixed : '(' ∉ blockClose := by decide
  simp [endPart, hstatus, hfixed, not_mem_blanks e.back.blank (show isBlank '(' = false by decide)]

theorem unled_rest (e : Test) : Unled (some '(') e.rest := by
  apply unled_pass (by decide) (show solidEnd (some '(') statusWord = some 's' by decide) (by decide)
  apply unled_pass (by decide) (show solidEnd (some '(') matcher = some 'e' by decide) (by decide)
  exact unled_of_not_mem e.not_mem_endPart _

theorem solidEnd_requestWord (e : Test) (b : Option Char) :
    ∃ c, solidEnd b e.requestWord = some c ∧ sameLetter 'n' c = false := by
  unfold requestWord
  cases e.method <;> exact ⟨_, rfl, by decide⟩

theorem unled_render (e : Test) (b : Option Char) : Unled b e.render := by
  have hunled : sameLetter 'n' 't' = false ∧ sameLetter 'n' 'c' = false := by decide
  have hfront : '(' ∉ e.front.text ++ testWord := by
    have hfixed : '(' ∉ testWord := by decide
    simp [hfixed, not_mem_blanks e.front.blank (show isBlank '(' = false by decide)]
  have hfrontEnd : solidEnd b (e.front.text ++ testWord) = some 't' := by
    rw [solidEnd_append, solidEnd_blanks e.front.blank]
    rfl
  have htitleEnd : solidEnd (some '(') e.titlePart = some 'c' := by
    have htitle : e.titlePart = '\'' :: (e.title ++ ['\'', ',']) ++ asyncWord := by simp [titlePart]
    rw [htitle, solidEnd_append]
    rfl
  have hopen : '(' ∉ e.openPart ++ e.requestWord := by
    simp [e.not_mem_openPart, e.not_mem_requestWord]
  have hurl : '(' ∉ '\'' :: (e.url ++ '\'' :: e.optionsPart) := by
    simp [e.plain_url.1.not_mem (.inl rfl), e.not_mem_optionsPart]
  have hurlEnd : solidEnd (some '(') ('\'' :: (e.url ++ '\'' :: e.optionsPart)) = some 't' := by
    have hword : '\'' :: (e.url ++ '\'' :: e.optionsPart) =
        '\'' :: (e.url ++ '\'' :: ',' :: ' ' :: (e.options ++ ')' :: ';' :: e.after.text)) ++
          expectWord := by simp [optionsPart]
    rw [hword, solidEnd_append]
    rfl
  obtain ⟨c, hc, hcn⟩ := e.solidEnd_requestWord (solidEnd (some '(') e.openPart)
  rw [render_eq, ← List.append_assoc]
  apply unled_pass hfront hfrontEnd hunled.1
  apply unled_pass e.not_mem_title htitleEnd hunled.2
  rw [← List.append_assoc]
  apply unled_pass hopen (by rw [solidEnd_append]; exact hc) hcn
  exact unled_pass hurl hurlEnd hunled.1 e.unled_rest

end Test

theorem unled_tests (tests : List Test) (b : Option Char) :
    Unled b (tests.flatMap Test.render) := by
  induction tests generalizing b with
  | nil => trivial
  | cons e es ih =>
    rw [List.flatMap_cons]
    exact unled_append.2 ⟨e.unled_render b, ih _⟩

theorem unled_script (s : Script) : Unled none s.render := by
  have hgroup : '(' ∉ '\'' :: (s.group ++ ['\'', ',', ' ']) := by
    simp [s.plain_group.1.not_mem (.inl rfl)]
  have hgroupEnd : solidEnd (some '(') ('\'' :: (s.group ++ ['\'', ',', ' '])) = some ',' := by
    rw [← List.cons_append, solidEnd_append]
    rfl
  have hfooter : '(' ∉ s.footer := by
    have hfixed : '(' ∉ blockClose := by decide
    have hparen : isBlank '(' = false := by decide
    simp [footer, hfixed, not_mem_blanks s.ending.blank hparen, not_mem_blanks s.final.blank hparen]
  have hopening : Unled none s.opening := by
    have hsplit : s.opening = describeWord ++ '(' ::
        ('\'' :: (s.group ++ ['\'', ',', ' ']) ++ '(' :: groupOpen) := by simp [opening]
    rw [hsplit]
    apply unled_pass (by decide) (show solidEnd none describeWord = some 'e' by decide) (by decide)
    exact unled_pass hgroup hgroupEnd (by decide) (unled_of_not_mem (by decide) _)
  exact unled_append.2 ⟨hopening, unled_append.2 ⟨unled_tests _ _, unled_of_not_mem hfooter _⟩⟩

/-- In no part of such a text is there an assertion about text. -/
theorem find?_textPattern {b : Option Char} {t rest : Text} (h : Unled b (t ++ rest)) :
    find? textPattern t = none := by
  apply find?_eq_none.2
  apply quiet_of_no_match
  intro x c y r hsplit hmatch
  obtain ⟨front, d, bl, z, ht, hbl, hd⟩ := textPattern_letter hmatch
  have hfront := (unled_append.1 h).1
  rw [List.append_nil] at ht
  rw [hsplit, ht, ← List.append_assoc] at hfront
  rw [hfront.not_letter hbl] at hd
  cases hd

theorem statusPattern_matcher (b : Option Char) (w : Text) :
    statusPattern b (expectWord ++ '(' :: (statusWord ++ '(' :: (matcher ++ '(' :: w))) = do
      let (code, rest) ← threeDigits? (skipBlanks w)
      return (code, ← afterMark? ')' rest) := rfl

theorem statusPattern_status {n : Nat} (h : 100 ≤ n ∧ n ≤ 599) (b : Option Char) (t : Text) :
    statusPattern b (expectWord ++ '(' :: (statusWord ++ '(' :: (matcher ++ '(' ::
      (ofNat n ++ ')' :: t)))) = some (n, t) := by
  obtain ⟨i, j, k, hijk, hdigits, hread⟩ := digits_of_status h
  have hi : isBlank i = false := by
    have hatom : isAtomChar i = true := by simp [isAtomChar, hdigits i (by simp [hijk])]
    exact (Key.isAtomChar_ne hatom).1
  have hdigit : threeDigits? (i :: j :: k :: ')' :: t) = some (n, ')' :: t) := by
    simp only [threeDigits?, Option.bind_eq_bind, Option.bind_eq_some_iff, Option.pure_def,
      Option.some.injEq, Prod.mk.injEq] at hread ⊢
    obtain ⟨x, hx, y, hy, z, hz, hn, _⟩ := hread
    exact ⟨x, hx, y, hy, z, hz, hn, trivial⟩
  rw [statusPattern_matcher, hijk]
  simp only [List.cons_append, List.nil_append, skipBlanks_cons hi, hdigit]
  rfl

/-- No assertion about a response begins before the word `expect`. -/
theorem Test.no_letter_beforeExpect (e : Test) :
    ∀ c ∈ ';' :: e.after.text, sameLetter 'e' c = false := by
  intro c hmem
  rcases List.mem_cons.1 hmem with rfl | hmem
  · decide
  · by_contra hc
    have hletter : sameLetter 'e' c = true := by simpa using hc
    have hblank := isBlank_latin (isLatinLetter_of_sameLetter (by decide) hletter)
    rw [e.after.blank c hmem] at hblank
    cases hblank

def Test.expectPart (e : Test) : Text :=
  expectWord ++ '(' :: (statusWord ++ '(' :: (matcher ++ '(' :: (ofNat e.status ++ [')'])))

theorem assertion_eq (e : Test) : e.assertion = (';' :: e.after.text) ++ e.expectPart := by
  simp [Test.assertion, Test.expectPart]

/-- The test's own status is the first one asserted. -/
theorem firstInRange?_assertion (e : Test) (t : Text) :
    Asserted.firstInRange? statusPattern (e.assertion ++ t) =
      some ⟨(';' :: e.after.text).length, e.status⟩ := by
  have hmatch (b : Option Char) : statusPattern b (e.expectPart ++ t) = some (e.status, t) := by
    have := statusPattern_status e.status_range b t
    simpa [Test.expectPart] using this
  have hquiet (v : Text) : Quiet statusPattern none (';' :: e.after.text) v :=
    quiet_of_first statusPattern_start e.no_letter_beforeExpect none v
  have hne : e.expectPart ≠ [] := by simp [Test.expectPart]
  have hfind := findAllFrom_quiet 0 (hquiet (e.expectPart ++ t))
  rw [findAllFrom_hit _ hne (hmatch _), Nat.zero_add] at hfind
  have hrange : (decide (100 ≤ e.status) && decide (e.status ≤ 599)) = true := by
    simp [e.status_range]
  unfold Asserted.firstInRange? findAll
  rw [assertion_eq, List.append_assoc, hfind]
  exact List.find?_cons_of_pos hrange

/-- A success is asserted behind it, if at all. -/
theorem start_le_of_ok {e : Test} {t : Text} {f : Found Nat}
    (h : Asserted.firstInRange? okPattern (e.assertion ++ t) = some f) :
    (';' :: e.after.text).length ≤ f.start := by
  have hquiet (v : Text) : Quiet okPattern none (';' :: e.after.text) v :=
    quiet_of_first okPattern_start e.no_letter_beforeExpect none v
  unfold Asserted.firstInRange? findAll at h
  rw [assertion_eq, List.append_assoc, findAllFrom_quiet 0 (hquiet _)] at h
  have := (mem_findAllFrom (List.mem_of_find?_eq_some h)).1
  omega

theorem ofWindow_assertion (e : Test) {b : Option Char} {t rest : Text}
    (h : Unled b (e.assertion ++ t ++ rest)) :
    Asserted.ofWindow (e.assertion ++ t) = ⟨some e.status, none⟩ := by
  have hearlier : Asserted.earlier (some ⟨(';' :: e.after.text).length, e.status⟩)
      (Asserted.firstInRange? okPattern (e.assertion ++ t)) =
        some ⟨(';' :: e.after.text).length, e.status⟩ := by
    cases hok : Asserted.firstInRange? okPattern (e.assertion ++ t) with
    | none => rfl
    | some f =>
      have hle := start_le_of_ok hok
      unfold Asserted.earlier
      exact if_neg (Nat.not_lt.2 hle)
  unfold Asserted.ofWindow
  rw [firstInRange?_assertion, hearlier, find?_textPattern h]
  rfl

end EndpointManifest.Script
