import EndpointManifest.Proofs.Script.Find
import EndpointManifest.Settings.Basic

/-! What is found over a whole script: the group at its start, then in each test the title and the
request, at the offset where the test stands. -/

namespace EndpointManifest.Script

open Text Call Label

def receivers : List Text := ({} : Settings).receivers

theorem lettered_receivers : Lettered receivers := by
  have hletters : ∀ client ∈ receivers, client ≠ [] ∧ ∀ c ∈ client, isAsciiLetter c = true := by
    decide
  exact ⟨by decide, hletters⟩

def Apart (b : Option Char) : Prop := b.any isNameChar = false

theorem Apart.endOf_blanks {b : Option Char} (hb : Apart b) {bl : Text} (h : AllBlank bl) :
    Apart (endOf b bl) := by
  induction bl generalizing b with
  | nil => exact hb
  | cons c bl ih =>
    have hc : isKeyChar c = false := isKeyChar_of_isBlank (h c (by simp))
    refine ih ?_ fun d hd => h d (by simp [hd])
    simp only [isKeyChar, Bool.or_eq_false_iff] at hc
    exact hc.1

theorem Apart.wordEdge {b : Option Char} (hb : Apart b) {c : Char} (hc : isWord c = true)
    (t : Text) : wordEdge b (c :: t) = true := by
  cases b with
  | none => simp [Text.wordEdge, hc]
  | some d =>
    simp only [Apart, Option.any_some, isNameChar, Bool.or_eq_false_iff] at hb
    simp [Text.wordEdge, hb.1, hc]

theorem titleArgument?_quoted {title : Text} (h : Plain title ∧ title ≠ [] ∧ '\n' ∉ title)
    (w : Text) : titleArgument? ('(' :: '\'' :: (title ++ '\'' :: ',' :: w)) = some (title, w) := by
  obtain ⟨hplain, hne, hline⟩ := h
  refine titleArgument?_eq_some.2 ⟨[], [], [], '\'', allBlank_nil, allBlank_nil, allBlank_nil,
    by decide, hne, ?_, rfl⟩
  intro c hc
  constructor
  · rintro rfl
    have := (hplain _ hc).1
    simp [isQuote] at this
  · rintro rfl
    exact hline hc

theorem testPattern_test {b : Option Char} (hb : Apart b) {title : Text}
    (h : Plain title ∧ title ≠ [] ∧ '\n' ∉ title) (w : Text) :
    testPattern b (testWord ++ '(' :: '\'' :: (title ++ '\'' :: ',' :: w)) = some (title, w) := by
  have hedge := hb.wordEdge (c := 't') (by decide)
    ("est".toList ++ '(' :: '\'' :: (title ++ '\'' :: ',' :: w))
  refine guard_bind_eq_some.2 ⟨hedge, ?_⟩
  exact titleArgument?_quoted h w

theorem groupPattern_describe {title : Text} (h : Plain title ∧ title ≠ [] ∧ '\n' ∉ title)
    (w : Text) :
    groupPattern none (describeWord ++ '(' :: '\'' :: (title ++ '\'' :: ',' :: w)) =
      some (title, w) := by
  have hmodifiers (t : Text) : skipModifiers ('(' :: t) = '(' :: t := by
    rw [skipModifiers]
    split
    · rfl
    · next rest hrest =>
      have hnone : afterOneOf? ([".only", ".skip", ".serial", ".parallel"].map String.toList)
        ('(' :: t) = none := rfl
      rw [hnone] at hrest
      cases hrest
  have hedge := (show Apart none from rfl).wordEdge (c := 't') (by decide)
    ("est.describe".toList ++ '(' :: '\'' :: (title ++ '\'' :: ',' :: w))
  refine guard_bind_eq_some.2 ⟨hedge, ?_⟩
  show titleArgument? (skipModifiers ('(' :: '\'' :: (title ++ '\'' :: ',' :: w))) = _
  rw [hmodifiers]
  exact titleArgument?_quoted h w

theorem verb?_verb (m : Method) (w : Text) : verb? (m.verb ++ '(' :: w) = some (m, '(' :: w) := by
  cases m <;> rfl

theorem methodPattern_request {b : Option Char} (hb : Apart b) (m : Method) {url : Text}
    (h : Plain url ∧ url ≠ []) (w : Text) :
    methodPattern receivers b (client ++ '.' :: (m.verb ++ '(' :: '\'' :: (url ++ '\'' :: w))) =
      some ((m, url), w) := by
  have hskip : skipBlanks (m.verb ++ '(' :: '\'' :: (url ++ '\'' :: w)) =
      m.verb ++ '(' :: '\'' :: (url ++ '\'' :: w) := by cases m <;> rfl
  have hurl : urlArgument? ('(' :: '\'' :: (url ++ '\'' :: w)) = some (url, w) :=
    urlArgument?_eq_some.2 ⟨[], [], '\'', allBlank_nil, allBlank_nil, by decide, h.2,
      fun c hc => (h.1 c hc).1, rfl⟩
  have hcall : verbCall? ('.' :: (m.verb ++ '(' :: '\'' :: (url ++ '\'' :: w))) =
      some ((m, url), w) := by
    have hpoint : afterMark? '.' ('.' :: (m.verb ++ '(' :: '\'' :: (url ++ '\'' :: w))) =
        some (m.verb ++ '(' :: '\'' :: (url ++ '\'' :: w)) := rfl
    simp only [verbCall?, hpoint, hskip, verb?_verb, hurl, Option.bind_eq_bind, Option.bind_some,
      Option.pure_def]
  have hclient : afterAnyCase? client
      (client ++ '.' :: (m.verb ++ '(' :: '\'' :: (url ++ '\'' :: w))) =
        some ('.' :: (m.verb ++ '(' :: '\'' :: (url ++ '\'' :: w))) :=
    afterAnyCase?_eq_some.2 ⟨client, sameLetters_refl client, rfl⟩
  have hcons : ∃ others, receivers = client :: others := ⟨_, rfl⟩
  obtain ⟨others, hothers⟩ := hcons
  have hnone : ¬ (receivers = [] ∨ receivers = [[]]) := by decide
  refine guard_bind_eq_some.2 ⟨by rw [hb]; rfl, ?_⟩
  rw [if_neg hnone, hothers, List.findSome?_cons]
  simp only [hclient, hcall, Option.bind_eq_bind, Option.bind_some]

namespace Test

def titleStart (e : Test) : Nat := e.front.text.length

def requestStart (e : Test) : Nat := e.beforeRequest.length

def afterUrl (e : Test) : Text := e.optionsPart ++ '(' :: e.rest

theorem endOf_render (e : Test) (b : Option Char) : endOf b e.render = some ';' := by
  have hclose : blockClose = ['\x7d', ')'] ++ [';'] := by decide
  rw [render_eq, rest, endPart, hclose]
  simp only [← List.append_assoc, ← List.cons_append, endOf_snoc]

theorem openPart_eq (e : Test) : ∃ u, e.openPart = u ++ [' '] :=
  ⟨testOpen ++ (e.inside.text ++ "const r = await".toList), by
    simp [openPart, show declaration = "const r = await".toList ++ [' '] by decide]⟩

theorem quiet_openPart (e : Test) (b : Option Char) (w : Text) :
    Quiet (methodPattern receivers) b e.openPart (client ++ '.' :: w) := by
  apply quiet_of_no_match
  rintro x c y ⟨⟨m, url⟩, rest⟩ hsplit h
  obtain ⟨_, object, t', hclient, ht, hcall⟩ := methodPattern_some h
  obtain ⟨_, _, hlatin⟩ := lettered_receivers.of_isClient hclient
  obtain ⟨bl, bl', word, t'', hbl, _, _, rfl, _⟩ := verbCall?_some hcall
  have hopen : '.' ∉ e.openPart := by
    have hfixed : '.' ∉ testOpen ∧ '.' ∉ declaration := by decide
    simp [openPart, hfixed, not_mem_blanks e.inside.blank (show isBlank '.' = false by decide)]
  have hleft : '.' ∉ c :: y ++ client := by
    have hfixed : '.' ∉ client := by decide
    rw [hsplit] at hopen
    simp only [List.mem_append, not_or] at hopen ⊢
    exact ⟨hopen.2, hfixed⟩
  have hright : '.' ∉ object ++ bl := by
    simp only [List.mem_append, not_or]
    exact ⟨fun hmem => absurd (hlatin _ hmem) (by decide), not_mem_blanks hbl (by decide)⟩
  have hobject : c :: y ++ client = object ++ bl := by
    have hpoint : (c :: y ++ client) ++ '.' :: w =
        (object ++ bl) ++ '.' :: (bl' ++ (word ++ t'')) := by
      simpa using ht
    exact (split_unique hleft hright hpoint).1
  have hnil : bl = [] := by
    by_contra hne
    have hends := congrArg List.getLast? hobject
    rw [List.getLast?_append_of_ne_nil _ (show client ≠ [] by decide),
      List.getLast?_append_of_ne_nil _ hne] at hends
    have hblank := hbl 't' (List.mem_of_getLast? (hends.symm.trans (by decide)))
    revert hblank
    decide
  obtain ⟨u, hu⟩ := e.openPart_eq
  have hspace : ' ' ∈ c :: y := by
    have hends := congrArg List.getLast? (hu.symm.trans hsplit)
    rw [List.getLast?_concat, List.getLast?_append_of_ne_nil _ (List.cons_ne_nil c y)] at hends
    exact List.mem_of_getLast? hends.symm
  have hmem : ' ' ∈ object := by
    rw [hnil, List.append_nil] at hobject
    rw [← hobject]
    exact List.mem_append_left _ hspace
  exact absurd (hlatin _ hmem) (by decide)

/-- Before its request a test is quiet for the calls on clients. -/
theorem quiet_beforeRequest (e : Test) (b : Option Char) (w : Text) :
    Quiet (methodPattern receivers) b e.beforeRequest (client ++ '.' :: w) := by
  have hp := heads_method lettered_receivers
  refine hp.quiet_pass_word (not_mem_blanks e.front.blank (by decide)) (by decide)
    (show testWord.getLast? = some 't' by decide) (by decide) (by decide) ?_
  exact quiet_asyncPart hp e.not_mem_title (e.quiet_openPart _ w)

theorem findAllFrom_title (e : Test) {b : Option Char} (hb : Apart b) (pos : Nat) (v : Text) :
    findAllFrom testPattern b pos 0 (e.render ++ v) = ⟨pos + e.titleStart, e.title⟩ ::
      findAllFrom testPattern (some ';') (pos + e.render.length) 0 v := by
  let hit : Text := testWord ++ '(' :: '\'' :: (e.title ++ ['\'', ','])
  let after : Text := asyncWord ++ '(' :: (e.openPart ++ (e.requestWord ++ '(' ::
    ('\'' :: (e.url ++ '\'' :: e.optionsPart) ++ '(' :: e.rest)))
  have hrender : e.render = e.front.text ++ (hit ++ after) := by
    rw [render_eq, titlePart]
    simp [hit, after]
  have hafter : Quiet testPattern (endOf b (e.front.text ++ hit)) after v := by
    have hclash : ∀ w ∈ testEndings, clash w.reverse e.requestWord.reverse = true :=
      e.clash_requestWord fun m => by cases m <;> decide
    refine quiet_asyncPart heads_test (by decide) ?_
    exact List.append_assoc .. ▸ quiet_request heads_test e hclash v
  have hmatch : testPattern (endOf b e.front.text) (hit ++ (after ++ v)) =
      some (e.title, after ++ v) := by
    have := testPattern_test (hb.endOf_blanks e.front.blank) e.plain_title (after ++ v)
    simpa [hit] using this
  have hfound := findAllFrom_single pos (quiet_front heads_test e _) (by simp [hit]) hmatch hafter
  rw [← hrender, e.endOf_render] at hfound
  exact hfound

theorem findAllFrom_request (e : Test) {b : Option Char} (pos : Nat) (v : Text) :
    findAllFrom (methodPattern receivers) b pos 0 (e.render ++ v) =
      ⟨pos + e.requestStart, (e.method, e.url)⟩ ::
        findAllFrom (methodPattern receivers) (some ';') (pos + e.render.length) 0 v := by
  let hit : Text := client ++ '.' :: (e.method.verb ++ '(' :: '\'' :: (e.url ++ ['\'']))
  have hrender : e.render = e.beforeRequest ++ (hit ++ e.afterUrl) := by
    rw [render_eq, requestWord, afterUrl, beforeRequest]
    simp [hit]
  have hbefore : Quiet (methodPattern receivers) b e.beforeRequest (hit ++ (e.afterUrl ++ v)) := by
    have := e.quiet_beforeRequest b
      (e.method.verb ++ '(' :: '\'' :: (e.url ++ ['\'']) ++ (e.afterUrl ++ v))
    simpa [hit] using this
  have hafter : Quiet (methodPattern receivers) (endOf b (e.beforeRequest ++ hit)) e.afterUrl v :=
    quiet_optionsPart (heads_method lettered_receivers) e (u := []) (by simp) v
  have happart : Apart (endOf b e.beforeRequest) := by
    obtain ⟨u, hu⟩ := e.openPart_eq
    simp only [beforeRequest, hu, ← List.append_assoc, ← List.cons_append, endOf_snoc]
    show isNameChar ' ' = false
    decide
  have hmatch : methodPattern receivers (endOf b e.beforeRequest) (hit ++ (e.afterUrl ++ v)) =
      some ((e.method, e.url), e.afterUrl ++ v) := by
    have := methodPattern_request happart e.method e.plain_url (e.afterUrl ++ v)
    simpa [hit] using this
  have hfound := findAllFrom_single pos hbefore (by simp [hit]) hmatch hafter
  rw [← hrender, e.endOf_render] at hfound
  exact hfound

end Test

def placed (pos : Nat) : List Test → List (Nat × Test)
  | [] => []
  | e :: es => (pos, e) :: placed (pos + e.render.length) es

@[simp] theorem map_placed (pos : Nat) (tests : List Test) :
    (placed pos tests).map (·.2) = tests := by
  induction tests generalizing pos with
  | nil => rfl
  | cons e es ih => rw [placed, List.map_cons, ih]

theorem split_of_mem_placed {pos : Nat} {tests : List Test} {n : Nat} {e : Test}
    (h : (n, e) ∈ placed pos tests) :
    ∃ u v, tests.flatMap Test.render = u ++ (e.render ++ v) ∧ n = pos + u.length := by
  induction tests generalizing pos with
  | nil => cases h
  | cons d es ih =>
    rcases List.mem_cons.1 h with h | h
    · obtain ⟨rfl, rfl⟩ := Prod.mk.inj h
      exact ⟨[], es.flatMap Test.render, rfl, rfl⟩
    · obtain ⟨u, v, hsplit, hn⟩ := ih h
      refine ⟨d.render ++ u, v, ?_, ?_⟩
      · rw [List.flatMap_cons, hsplit, List.append_assoc]
      · rw [hn, List.length_append, Nat.add_assoc]

theorem placed_pairwise (pos : Nat) (tests : List Test) :
    (placed pos tests).Pairwise fun x y => x.1 + x.2.render.length ≤ y.1 := by
  induction tests generalizing pos with
  | nil => exact .nil
  | cons e es ih =>
    refine List.pairwise_cons.2 ⟨?_, ih _⟩
    rintro ⟨n, d⟩ h
    obtain ⟨u, v, _, hn⟩ := split_of_mem_placed h
    show pos + e.render.length ≤ n
    omega

section

variable {α : Type} {p : Pattern α}

/-- What a pattern finds in the tests, if it finds one thing in each of them. -/
theorem findAllFrom_tests {start : Test → Nat} {value : Test → α}
    (hone : ∀ (e : Test) {b : Option Char}, Apart b → ∀ (pos : Nat) (v : Text),
      findAllFrom p b pos 0 (e.render ++ v) =
        ⟨pos + start e, value e⟩ :: findAllFrom p (some ';') (pos + e.render.length) 0 v)
    {b : Option Char} (hb : Apart b) (pos : Nat) (tests : List Test) (v : Text)
    (hv : ∀ b' pos', findAllFrom p b' pos' 0 v = []) :
    findAllFrom p b pos 0 (tests.flatMap Test.render ++ v) =
      (placed pos tests).map fun x => ⟨x.1 + start x.2, value x.2⟩ := by
  induction tests generalizing b pos with
  | nil => exact hv b pos
  | cons e es ih =>
    have hsemicolon : Apart (some ';') := show isNameChar ';' = false by decide
    rw [List.flatMap_cons, List.append_assoc, hone e hb, ih hsemicolon]
    rfl

/-- Where a pattern finds nothing in any of the tests, it finds nothing in all of them. -/
theorem quiet_tests {tests : List Test}
    (h : ∀ e ∈ tests, ∀ (b : Option Char) (v : Text), Quiet p b e.render v) (b : Option Char)
    (v : Text) : Quiet p b (tests.flatMap Test.render) v := by
  induction tests generalizing b with
  | nil => exact quiet_nil b v
  | cons e es ih =>
    simp only [List.mem_cons, forall_eq_or_imp] at h
    rw [List.flatMap_cons]
    exact quiet_append.2 ⟨h.1 b _, ih h.2 _⟩

end

def footer (s : Script) : Text := s.ending.text ++ (blockClose ++ s.final.text)

theorem render_eq (s : Script) :
    s.render = s.opening ++ (s.tests.flatMap Test.render ++ s.footer) := rfl

theorem endOf_opening (s : Script) (b : Option Char) : endOf b s.opening = some '\x7b' := by
  have hopen : groupOpen = ") => ".toList ++ ['\x7b'] := by decide
  rw [opening, hopen]
  simp only [← List.append_assoc, ← List.cons_append, endOf_snoc]

theorem apart_endOf_opening (s : Script) (b : Option Char) : Apart (endOf b s.opening) := by
  rw [s.endOf_opening]
  show isNameChar '\x7b' = false
  decide

section

variable {α : Type} {p : Pattern α} {words : List Text} {b : Option Char}

theorem quiet_footer (hp : Heads p words) (s : Script) (v : Text) : Quiet p b s.footer v := by
  have hclose : ∀ c ∈ blockClose, isLatinNameStart c = false := by decide
  refine hp.quiet_of_start (fun c hc => ?_) v
  simp only [footer, List.mem_append] at hc
  rcases hc with hc | hc | hc
  · exact Test.not_start_blank (s.ending.blank c hc)
  · exact hclose c hc
  · exact Test.not_start_blank (s.final.blank c hc)

theorem findAllFrom_footer (hp : Heads p words) (s : Script) (pos : Nat) :
    findAllFrom p b pos 0 s.footer = [] := by
  have := findAllFrom_quiet (b := b) pos (quiet_footer hp s [])
  rw [List.append_nil] at this
  exact this

theorem quiet_groupOpen (hp : Heads p words) {u : Text} (hu : '(' ∉ u) (v : Text) :
    Quiet p b (u ++ '(' :: groupOpen) v := by
  refine hp.quiet_pass hu ?_ (hp.quiet_of_start (by decide) v)
  rintro q hq
  obtain rfl : ')' = q := Option.some.inj hq
  decide

theorem quiet_opening (hp : Heads p words)
    (hclash : ∀ w ∈ words, clash w.reverse describeWord.reverse = true) (s : Script) (v : Text) :
    Quiet p b s.opening v := by
  rw [opening, ← List.nil_append (describeWord ++ _)]
  refine hp.quiet_pass_word List.not_mem_nil (by decide)
    (show describeWord.getLast? = some 'e' by decide) (by decide) hclash ?_
  have hgroup : '(' ∉ '\'' :: (s.group ++ ['\'', ',', ' ']) := by
    simp [s.plain_group.1.not_mem (.inl rfl)]
  simpa using quiet_groupOpen hp hgroup v

end

theorem findAll_testPattern (s : Script) : findAll testPattern s.render =
    (placed s.opening.length s.tests).map fun x => ⟨x.1 + x.2.titleStart, x.2.title⟩ := by
  rw [findAll, render_eq, findAllFrom_quiet 0 (quiet_opening heads_test (by decide) s _),
    Nat.zero_add]
  exact findAllFrom_tests Test.findAllFrom_title (s.apart_endOf_opening _) _ _ _ fun b' pos' =>
    findAllFrom_footer heads_test s pos'

theorem findAll_methodPattern (s : Script) : findAll (methodPattern receivers) s.render =
    (placed s.opening.length s.tests).map fun x =>
      ⟨x.1 + x.2.requestStart, (x.2.method, x.2.url)⟩ := by
  have hp := heads_method lettered_receivers
  rw [findAll, render_eq, findAllFrom_quiet 0 (quiet_opening hp (by decide) s _), Nat.zero_add]
  exact findAllFrom_tests (fun e _ _ => e.findAllFrom_request) (s.apart_endOf_opening _) _ _ _
    fun b' pos' => findAllFrom_footer hp s pos'

theorem findAll_fetchPattern (s : Script) : findAll fetchPattern s.render = [] := by
  refine findAll_nil_of_quiet ?_
  refine quiet_append.2 ⟨quiet_opening heads_fetch (by decide) s _, quiet_append.2 ⟨?_, ?_⟩⟩
  · refine quiet_tests (fun e _ b v => e.quiet_render heads_fetch (by decide) ?_ v) _ _
    exact e.clash_requestWord fun m => by cases m <;> decide
  · exact quiet_footer heads_fetch s []

theorem findAll_groupPattern (s : Script) : findAll groupPattern s.render = [⟨0, s.group⟩] := by
  let hit : Text := describeWord ++ '(' :: '\'' :: (s.group ++ ['\'', ','])
  let after : Text := [' '] ++ '(' :: groupOpen ++ (s.tests.flatMap Test.render ++ s.footer)
  have hrender : s.render = [] ++ (hit ++ after) ++ [] := by
    rw [render_eq, opening]
    simp [hit, after]
  have hafter : Quiet groupPattern (endOf none ([] ++ hit)) after [] := by
    refine quiet_append.2 ⟨quiet_groupOpen heads_group (by decide) _, quiet_append.2 ⟨?_, ?_⟩⟩
    · refine quiet_tests (fun e _ b v => e.quiet_render heads_group (by decide) ?_ v) _ _
      exact e.clash_requestWord fun m => by cases m <;> decide
    · exact quiet_footer heads_group s []
  have hmatch : groupPattern none (hit ++ (after ++ [])) = some (s.group, after ++ []) := by
    have := groupPattern_describe s.plain_group (after ++ [])
    simpa [hit] using this
  have hfound := findAllFrom_single 0 (quiet_nil none _) (by simp [hit]) hmatch hafter
  rw [findAll, hrender, hfound]
  rfl

end EndpointManifest.Script
