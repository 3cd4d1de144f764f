import EndpointManifest.Proofs.Call.Pattern
import EndpointManifest.Proofs.Label
import EndpointManifest.Proofs.Text.CharClass

/-! The four patterns of a source share a form: a head that ends in one of a few words, an opening
parenthesis, a quoted text. Where the next parenthesis stands after another word, or has no quote
behind it, none of them matches. -/

namespace EndpointManifest

open Text

/-- A pattern of that form: it begins like a name, and `words` are what its head may end in. -/
structure Heads {α : Type} (p : Pattern α) (words : List Text) : Prop where
  start : ∀ {b c t r}, p b (c :: t) = some r → isLatinNameStart c = true
  opens : ∀ {b t r}, p b t = some r → ∃ front word bl rest,
    t = front ++ (word ++ (bl ++ '(' :: rest)) ∧ '(' ∉ front ∧ '(' ∉ word ∧ AllBlank bl ∧
      (∃ w ∈ words, SameLetters w word) ∧ ∃ q tail, skipBlanks rest = q :: tail ∧ isQuote q = true

theorem sameLetters_refl (w : Text) : SameLetters w w :=
  List.forall₂_same.2 fun c _ => by simp [sameLetter]

def clash (s t : Text) : Bool := (s.zip t).any fun (a, b) => !sameLetter a b

theorem not_clash {s t u v z : Text} (h : SameLetters s t) (ht : t ++ u = v ++ z) :
    clash s v = false := by
  induction h generalizing v with
  | nil => rfl
  | cons hab _ ih =>
    cases v with
    | nil => rfl
    | cons c v =>
      obtain ⟨rfl, hrest⟩ := List.cons.inj ht
      simp only [clash, List.zip_cons_cons, List.any_cons, hab, Bool.not_true, Bool.false_or]
      exact ih hrest

section

variable {α : Type} {p : Pattern α} {words : List Text} {b : Option Char}

theorem Heads.quiet_of_start (hp : Heads p words) {u : Text}
    (h : ∀ c ∈ u, isLatinNameStart c = false) (v : Text) : Quiet p b u v :=
  quiet_of_first hp.start h b v

/-- A match in a stretch before a parenthesis has that parenthesis as its own. -/
theorem Heads.opens_at (hp : Heads p words) {u v : Text} (hu : '(' ∉ u) {r : α × Text}
    (h : p b (u ++ '(' :: v) = some r) : ∃ front word bl, u = front ++ (word ++ bl) ∧
      AllBlank bl ∧ (∃ w ∈ words, SameLetters w word) ∧
        ∃ q tail, skipBlanks v = q :: tail ∧ isQuote q = true := by
  obtain ⟨front, word, bl, rest, ht, hfront, hword, hbl, hw, hquote⟩ := hp.opens h
  have hhead : '(' ∉ front ++ (word ++ bl) := by
    simp only [List.mem_append, not_or]
    exact ⟨hfront, hword, not_mem_blanks hbl (by decide)⟩
  have hsplit : u ++ '(' :: v = (front ++ (word ++ bl)) ++ '(' :: rest := by rw [ht]; simp
  obtain ⟨rfl, rfl⟩ := split_unique hu hhead hsplit
  exact ⟨front, word, bl, rfl, hbl, hw, hquote⟩

theorem Heads.quiet_of_quote (hp : Heads p words) {u v : Text} (hu : '(' ∉ u)
    (hv : ∀ q, (skipBlanks v).head? = some q → isQuote q = false) : Quiet p b u ('(' :: v) := by
  apply quiet_of_no_match
  rintro x c y r rfl hr
  have hy : '(' ∉ c :: y := fun h => hu (List.mem_append_right _ h)
  obtain ⟨_, _, _, _, _, _, q, tail, hskip, hq⟩ := hp.opens_at hy hr
  have hnot := hv q (by rw [hskip]; rfl)
  rw [hq] at hnot
  cases hnot

theorem Heads.quiet_of_clash (hp : Heads p words) {front word v : Text} {c : Char}
    (hfront : '(' ∉ front) (hword : '(' ∉ word) (hlast : word.getLast? = some c)
    (hc : isBlank c = false) (hclash : ∀ w ∈ words, clash w.reverse word.reverse = true) :
    Quiet p b (front ++ word) ('(' :: v) := by
  apply quiet_of_no_match
  intro x d y r hsplit hr
  have hy : '(' ∉ d :: y := by
    intro h
    have hmem : '(' ∈ front ++ word := by rw [hsplit]; exact List.mem_append_right _ h
    exact (List.mem_append.1 hmem).elim hfront hword
  obtain ⟨front', word', bl, hhead, hbl, ⟨w, hw, hsame⟩, _⟩ := hp.opens_at hy hr
  rw [hhead] at hsplit
  have hne : word ≠ [] := by
    rintro rfl
    cases hlast
  have hnil : bl = [] := by
    by_contra hbl'
    have hends := congrArg List.getLast? hsplit
    rw [List.getLast?_append_of_ne_nil _ hne, hlast, ← List.append_assoc, ← List.append_assoc,
      List.getLast?_append_of_ne_nil _ hbl'] at hends
    rw [hbl c (List.mem_of_getLast? hends.symm)] at hc
    cases hc
  subst hnil
  have hback := congrArg List.reverse hsplit
  simp only [List.append_nil, List.reverse_append, List.append_assoc] at hback
  have hnot := not_clash (List.rel_reverse hsame) hback.symm
  rw [hclash w hw] at hnot
  cases hnot

theorem Heads.quiet_paren (hp : Heads p words) {u v : Text} (h : Quiet p (some '(') u v) :
    Quiet p b ('(' :: u) v := by
  have hstart : Quiet p b ['('] (u ++ v) := hp.quiet_of_start (by decide) _
  exact quiet_cons.2 ⟨(quiet_cons.1 hstart).1, h⟩

theorem Heads.quiet_pass (hp : Heads p words) {u w v : Text} (hu : '(' ∉ u)
    (hw : ∀ q, (skipBlanks (w ++ v)).head? = some q → isQuote q = false)
    (h : Quiet p (some '(') w v) : Quiet p b (u ++ '(' :: w) v :=
  quiet_append.2 ⟨hp.quiet_of_quote hu hw, hp.quiet_paren h⟩

theorem Heads.quiet_pass_word (hp : Heads p words) {front word w v : Text} {c : Char}
    (hfront : '(' ∉ front) (hword : '(' ∉ word) (hlast : word.getLast? = some c)
    (hc : isBlank c = false) (hclash : ∀ w ∈ words, clash w.reverse word.reverse = true)
    (h : Quiet p (some '(') w v) : Quiet p b (front ++ (word ++ '(' :: w)) v := by
  rw [← List.append_assoc]
  exact quiet_append.2 ⟨hp.quiet_of_clash hfront hword hlast hc hclash, hp.quiet_paren h⟩

end

theorem opens_titleArgument {t title rest : Text}
    (h : Label.titleArgument? t = some (title, rest)) : ∃ bl t', AllBlank bl ∧ t = bl ++ '(' :: t' ∧
      ∃ q tail, skipBlanks t' = q :: tail ∧ isQuote q = true := by
  obtain ⟨bl, bl', bl'', q, hbl, hbl', _, hq, _, _, rfl⟩ := Label.titleArgument?_eq_some.1 h
  refine ⟨bl, _, hbl, rfl, q, title ++ q :: (bl'' ++ ',' :: rest), ?_, hq⟩
  rw [skipBlanks_append hbl', List.cons_append, skipBlanks_cons (isBlank_quote hq)]

theorem opens_urlArgument {t url rest : Text} (h : Call.urlArgument? t = some (url, rest)) :
    ∃ bl t', AllBlank bl ∧ t = bl ++ '(' :: t' ∧
      ∃ q tail, skipBlanks t' = q :: tail ∧ isQuote q = true := by
  obtain ⟨bl, bl', q, hbl, hbl', hq, _, _, rfl⟩ := Call.urlArgument?_eq_some.1 h
  refine ⟨bl, _, hbl, rfl, q, url ++ q :: rest, ?_, hq⟩
  rw [skipBlanks_append hbl', List.cons_append, skipBlanks_cons (isBlank_quote hq)]

def testEndings : List Text := ["it", "test", ".only", ".skip"].map String.toList

theorem heads_test : Heads Label.testPattern testEndings where
  start {b c t r} h := by
    obtain ⟨_, name, hname, t', ht, _⟩ := Label.testPattern_some h
    have hfirst : ∀ name ∈ Label.testNames, name.head?.all isLatinNameStart = true ∧ name ≠ [] := by
      decide
    obtain ⟨hall, hne⟩ := hfirst name hname
    cases name with
    | nil => exact absurd rfl hne
    | cons d name =>
      obtain ⟨rfl, _⟩ := List.cons.inj ht
      exact hall
  opens {b t r} h := by
    obtain ⟨_, name, hname, t', rfl, htitle⟩ := Label.testPattern_some h
    obtain ⟨bl, rest, hbl, rfl, hquote⟩ := opens_titleArgument htitle
    have hends : ∀ name ∈ Label.testNames, '(' ∉ name ∧ ∃ w ∈ testEndings, w <:+ name := by decide
    obtain ⟨hparen, w, hw, front, rfl⟩ := hends name hname
    simp only [List.mem_append, not_or] at hparen
    exact ⟨front, w, bl, rest, by simp, hparen.1, hparen.2, hbl, ⟨w, hw, sameLetters_refl w⟩, hquote⟩

def groupEndings : List Text := "describe".toList :: Label.groupModifiers

theorem heads_group : Heads Label.groupPattern groupEndings where
  start {b c t r} h := by
    obtain ⟨_, front, hfront, chain, _, t', ht, _⟩ := Label.groupPattern_some h
    rcases hfront with rfl | rfl
    · obtain ⟨rfl, _⟩ := List.cons.inj ht
      decide
    · obtain ⟨rfl, _⟩ := List.cons.inj ht
      decide
  opens {b t r} h := by
    obtain ⟨_, front, hfront, chain, hchain, t', rfl, htitle⟩ := Label.groupPattern_some h
    obtain ⟨bl, rest, hbl, rfl, hquote⟩ := opens_titleArgument htitle
    have hparen : '(' ∉ front := by rcases hfront with rfl | rfl <;> decide
    have hmodifier : ∀ m ∈ Label.groupModifiers, '(' ∉ m := by decide
    rcases List.eq_nil_or_concat chain with rfl | ⟨chain, m, rfl⟩
    · exact ⟨front, "describe".toList, bl, rest, rfl, hparen, by decide, hbl,
        ⟨_, .head _, sameLetters_refl _⟩, hquote⟩
    · have hm := hchain m (by simp)
      refine ⟨front ++ ("describe".toList ++ chain.flatten), m, bl, rest, ?_, ?_, hmodifier m hm, hbl,
        ⟨m, .tail _ hm, sameLetters_refl m⟩, hquote⟩
      · simp only [List.concat_eq_append, List.flatten_append, List.flatten_cons, List.flatten_nil,
          List.append_nil, List.append_assoc]
      · have hdescribe : '(' ∉ "describe".toList := by decide
        simp only [List.mem_append, List.mem_flatten, not_or, not_exists, not_and]
        exact ⟨hparen, hdescribe, fun m' hm' => hmodifier m' (hchain m' (by simp [hm']))⟩

theorem not_mem_latin {word : Text} (h : ∀ c ∈ word, isLatinLetter c = true) : '(' ∉ word := by
  intro hmem
  exact absurd (h _ hmem) (by decide)

theorem verb_letters (m : Method) : ∀ c ∈ m.verb, isAsciiLetter c = true := by
  cases m <;> decide

def Lettered (clients : List Text) : Prop :=
  clients ≠ [] ∧ ∀ client ∈ clients, client ≠ [] ∧ ∀ c ∈ client, isAsciiLetter c = true

theorem Lettered.of_isClient {clients : List Text} (hc : Lettered clients) {object : Text}
    (h : Call.IsClient clients object) :
    (∃ client ∈ clients, SameLetters client object) ∧ object ≠ [] ∧
      ∀ c ∈ object, isLatinLetter c = true := by
  rcases h with ⟨client, hmem, hsame⟩ | ⟨hnone, _⟩
  · obtain ⟨hne, hletters⟩ := hc.2 client hmem
    refine ⟨⟨client, hmem, hsame⟩, ?_, hsame.latin hletters⟩
    rintro rfl
    exact hne (List.forall₂_nil_right_iff.1 hsame)
  · rcases hnone with rfl | rfl
    · exact absurd rfl hc.1
    · exact absurd rfl (hc.2 [] (.head _)).1

theorem heads_method {clients : List Text} (hc : Lettered clients) :
    Heads (Call.methodPattern clients) (Method.all.map Method.verb) where
  start {b c t r} h := by
    obtain ⟨⟨m, url⟩, rest⟩ := r
    obtain ⟨_, object, t', hclient, ht, _⟩ := Call.methodPattern_some h
    obtain ⟨_, hne, hlatin⟩ := hc.of_isClient hclient
    cases object with
    | nil => exact absurd rfl hne
    | cons d object =>
      obtain ⟨rfl, _⟩ := List.cons.inj ht
      simp [isLatinNameStart, hlatin c (.head _)]
  opens {b t r} h := by
    obtain ⟨⟨m, url⟩, rest⟩ := r
    obtain ⟨_, object, t', hclient, rfl, hcall⟩ := Call.methodPattern_some h
    obtain ⟨_, _, hlatin⟩ := hc.of_isClient hclient
    obtain ⟨bl, bl', word, t'', hbl, hbl', hword, rfl, harg⟩ := Call.verbCall?_some hcall
    obtain ⟨bl'', rest', hbl'', rfl, hquote⟩ := opens_urlArgument harg
    refine ⟨object ++ (bl ++ '.' :: bl'), word, bl'', rest', by simp, ?_,
      not_mem_latin (hword.latin (verb_letters m)), hbl'', ⟨m.verb, ?_, hword⟩, hquote⟩
    · simp only [List.mem_append, List.mem_cons, not_or]
      exact ⟨not_mem_latin hlatin, not_mem_blanks hbl (by decide), by decide,
        not_mem_blanks hbl' (by decide)⟩
    · cases m <;> decide

/-- What stands before `fetch` in a call: nothing, or a name and a point. -/
theorem not_mem_fetchObject {object : Text} (h : object = [] ∨ ∃ c tail bl bl',
    isLatinNameStart c = true ∧ (∀ d ∈ tail, isNameChar d = true) ∧ AllBlank bl ∧ AllBlank bl' ∧
      object = c :: tail ++ (bl ++ '.' :: bl')) : '(' ∉ object := by
  rcases h with rfl | ⟨c, tail, bl, bl', hc, htail, hbl, hbl', rfl⟩
  · simp
  · have hstart : '(' ≠ c := by
      rintro rfl
      exact absurd hc (by decide)
    have hname : '(' ∉ tail := fun h => absurd (htail _ h) (by decide)
    simp only [List.mem_append, List.mem_cons, not_or]
    exact ⟨⟨hstart, hname⟩, not_mem_blanks hbl (by decide), by decide,
      not_mem_blanks hbl' (by decide)⟩

theorem heads_fetch : Heads Call.fetchPattern ["fetch".toList] where
  start {b c t r} h := by
    obtain ⟨url, rest⟩ := r
    obtain ⟨_, object, t', ht, hobject, hcall⟩ := Call.fetchPattern_some h
    obtain ⟨word, t'', hword, rfl, _⟩ := Call.fetchCall?_some hcall
    rcases hobject with rfl | ⟨d, tail, bl, bl', hd, _, _, _, rfl⟩
    · have hlatin := hword.latin (by decide)
      cases word with
      | nil => cases hword
      | cons d word =>
        obtain ⟨rfl, _⟩ := List.cons.inj ht
        simp [isLatinNameStart, hlatin c (.head _)]
    · obtain ⟨rfl, _⟩ := List.cons.inj ht
      exact hd
  opens {b t r} h := by
    obtain ⟨url, rest⟩ := r
    obtain ⟨_, object, t', rfl, hobject, hcall⟩ := Call.fetchPattern_some h
    obtain ⟨word, t'', hword, rfl, harg⟩ := Call.fetchCall?_some hcall
    obtain ⟨bl'', rest', hbl'', rfl, hquote⟩ := opens_urlArgument harg
    exact ⟨object, word, bl'', rest', rfl, not_mem_fetchObject hobject,
      not_mem_latin (hword.latin (by decide)), hbl'', ⟨_, .head _, hword⟩, hquote⟩

end EndpointManifest
