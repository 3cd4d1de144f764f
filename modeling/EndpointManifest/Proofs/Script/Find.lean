import EndpointManifest.Proofs.Call.Head
import EndpointManifest.Proofs.Options.Scan
import EndpointManifest.Proofs.Script.Basic

/-! What the patterns find in a script: its group once, and in each test the title once and the
request once. Nothing is found in titles, URLs, options or between the tests. -/

namespace EndpointManifest.Script

open Text Call Label

namespace Test

def titlePart (e : Test) : Text := '\'' :: (e.title ++ '\'' :: ',' :: asyncWord)

def openPart (e : Test) : Text := testOpen ++ (e.inside.text ++ declaration)

def requestWord (e : Test) : Text := client ++ '.' :: e.method.verb

def optionsPart (e : Test) : Text :=
  ',' :: ' ' :: (e.options ++ ')' :: ';' :: (e.after.text ++ expectWord))

def endPart (e : Test) : Text := ofNat e.status ++ ')' :: ';' :: (e.back.text ++ blockClose)

def rest (e : Test) : Text := statusWord ++ '(' :: (matcher ++ '(' :: e.endPart)

theorem render_eq (e : Test) : e.render = e.front.text ++ (testWord ++ '(' :: (e.titlePart ++ '(' ::
    (e.openPart ++ (e.requestWord ++ '(' :: ('\'' :: (e.url ++ '\'' :: e.optionsPart) ++ '(' ::
      e.rest))))) := by
  simp only [render, request, assertion, titlePart, openPart, requestWord, optionsPart, endPart,
    rest, List.append_assoc, List.cons_append, List.nil_append]

def beforeRequest (e : Test) : Text :=
  e.front.text ++ (testWord ++ '(' :: (e.titlePart ++ '(' :: e.openPart))

def arguments (e : Test) : Text := '\'' :: (e.url ++ '\'' :: ',' :: ' ' :: e.options)

def afterRequest (e : Test) : Text := e.assertion ++ ';' :: (e.back.text ++ blockClose)

theorem render_eq_request (e : Test) : e.render = e.beforeRequest ++ (e.requestWord ++ '(' ::
    (e.arguments ++ ')' :: e.afterRequest)) := by
  simp only [render, request, beforeRequest, titlePart, openPart, requestWord, arguments,
    afterRequest, List.append_assoc, List.cons_append, List.nil_append]

theorem not_mem_title (e : Test) : '(' ∉ e.titlePart := by
  have hfixed : '(' ∉ asyncWord := by decide
  simp [titlePart, hfixed, e.plain_title.1.not_mem (.inl rfl)]

theorem not_mem_openPart (e : Test) : '(' ∉ e.openPart := by
  have hfixed : '(' ∉ testOpen ∧ '(' ∉ declaration := by decide
  simp [openPart, hfixed, not_mem_blanks e.inside.blank (show isBlank '(' = false by decide)]

theorem not_mem_requestWord (e : Test) : '(' ∉ e.requestWord := by
  rw [requestWord]
  cases e.method <;> decide

theorem not_mem_optionsPart (e : Test) : '(' ∉ e.optionsPart := by
  have hfixed : '(' ∉ expectWord := by decide
  simp [optionsPart, hfixed, not_mem_options (e := e) (.inl rfl),
    not_mem_blanks e.after.blank (show isBlank '(' = false by decide)]

theorem endPart_start (e : Test) (v : Text) :
    ∀ q, (skipBlanks (e.endPart ++ v)).head? = some q → isQuote q = false := by
  obtain ⟨i, j, k, hijk, hdigits, _⟩ := digits_of_status e.status_range
  have hi : isAsciiDigit i = true := hdigits i (by simp [hijk])
  have hatom : isAtomChar i = true := by simp [isAtomChar, hi]
  obtain ⟨hblank, _, _, hquote⟩ := Key.isAtomChar_ne hatom
  intro q hq
  rw [endPart, hijk, List.append_assoc, List.cons_append, skipBlanks_cons hblank] at hq
  obtain rfl := Option.some.inj hq
  exact hquote

theorem not_start_blank {c : Char} (h : isBlank c = true) : isLatinNameStart c = false := by
  have hpoints : ∀ n ∈ blankPoints, isLatinNameStart (Char.ofNat n) = false := by decide +kernel
  simpa [Char.ofNat_toNat] using hpoints _ (mem_blankPoints h)

theorem not_start_digit {c : Char} (h : isAsciiDigit c = true) : isLatinNameStart c = false := by
  have hall : ∀ n < 58, isLatinNameStart (Char.ofNat n) = true → n = 36 := by decide +kernel
  have hc := (isAsciiDigit_iff c).1 h
  refine Bool.eq_false_iff.2 fun hstart => ?_
  have := hall c.toNat (by omega) (by rw [Char.ofNat_toNat]; exact hstart)
  omega

theorem endPart_not_start (e : Test) : ∀ c ∈ e.endPart, isLatinNameStart c = false := by
  obtain ⟨_, _, _, _, hdigits, _⟩ := digits_of_status e.status_range
  have hfixed : ∀ c ∈ blockClose, isLatinNameStart c = false := by decide
  have hmarks : isLatinNameStart ')' = false ∧ isLatinNameStart ';' = false := by decide
  intro c hc
  simp only [endPart, List.mem_append, List.mem_cons] at hc
  rcases hc with hc | rfl | rfl | hc | hc
  · exact not_start_digit (hdigits c hc)
  · exact hmarks.1
  · exact hmarks.2
  · exact not_start_blank (e.back.blank c hc)
  · exact hfixed c hc

section

variable {α : Type} {p : Pattern α} {words : List Text} {b : Option Char}

theorem quiet_front (hp : Heads p words) (e : Test) (v : Text) : Quiet p b e.front.text v :=
  hp.quiet_of_start (fun _ hc => not_start_blank (e.front.blank _ hc)) v

/-- Nothing is found from the URL's end to the end of the test. -/
theorem quiet_optionsPart (hp : Heads p words) (e : Test) {u : Text} (hu : '(' ∉ u) (v : Text) :
    Quiet p b (u ++ (e.optionsPart ++ '(' :: e.rest)) v := by
  have hrest : Quiet p (some '(') e.rest v := by
    refine hp.quiet_pass (by decide) ?_ (hp.quiet_pass (by decide) (e.endPart_start v) ?_)
    · rintro q hq
      obtain rfl : ')' = q := Option.some.inj hq
      decide
    · exact hp.quiet_of_start e.endPart_not_start v
  rw [← List.append_assoc]
  refine hp.quiet_pass ?_ ?_ hrest
  · simp [hu, e.not_mem_optionsPart]
  · rintro q hq
    obtain rfl : 'r' = q := Option.some.inj hq
    decide

/-- Nothing is found from the title to the parameters of the test. -/
theorem quiet_asyncPart (hp : Heads p words) {u w v : Text} (hu : '(' ∉ u)
    (h : Quiet p (some '(') (testOpen ++ w) v) : Quiet p b (u ++ '(' :: (testOpen ++ w)) v := by
  refine hp.quiet_pass hu ?_ h
  rintro q hq
  obtain rfl : '\x7b' = q := Option.some.inj hq
  decide

theorem getLast?_requestWord (e : Test) :
    ∃ c, e.requestWord.getLast? = some c ∧ isBlank c = false := by
  rw [requestWord]
  cases e.method <;> exact ⟨_, rfl, by decide⟩

theorem clash_requestWord (e : Test)
    (h : ∀ m : Method, ∀ w ∈ words, clash w.reverse (client ++ '.' :: m.verb).reverse = true) :
    ∀ w ∈ words, clash w.reverse e.requestWord.reverse = true := h e.method

/-- Nothing is found before the request or in it, where no head ends like the request. -/
theorem quiet_request (hp : Heads p words) (e : Test)
    (hclash : ∀ w ∈ words, clash w.reverse e.requestWord.reverse = true) (v : Text) :
    Quiet p b (e.openPart ++ (e.requestWord ++ '(' :: ('\'' :: (e.url ++ '\'' :: e.optionsPart) ++
      '(' :: e.rest))) v := by
  obtain ⟨c, hlast, hc⟩ := e.getLast?_requestWord
  refine hp.quiet_pass_word e.not_mem_openPart e.not_mem_requestWord hlast hc hclash ?_
  have hurl : '(' ∉ '\'' :: (e.url ++ ['\'']) := by simp [e.plain_url.1.not_mem (.inl rfl)]
  simpa using quiet_optionsPart hp e hurl v

/-- A test is quiet for a pattern whose heads end neither in `test` nor like the request. -/
theorem quiet_render (hp : Heads p words) (e : Test)
    (htest : ∀ w ∈ words, clash w.reverse testWord.reverse = true)
    (hrequest : ∀ w ∈ words, clash w.reverse e.requestWord.reverse = true) (v : Text) :
    Quiet p b e.render v := by
  rw [render_eq]
  refine hp.quiet_pass_word (not_mem_blanks e.front.blank (by decide)) (by decide)
    (show testWord.getLast? = some 't' by decide) (by decide) htest ?_
  rw [openPart, List.append_assoc]
  refine quiet_asyncPart hp e.not_mem_title ?_
  rw [← List.append_assoc, ← openPart]
  exact quiet_request hp e hrequest v

end

end Test
end EndpointManifest.Script
