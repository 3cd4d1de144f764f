import EndpointManifest.Proofs.Options.Header
import EndpointManifest.Proofs.Options.Value
import EndpointManifest.Proofs.Text.Search

/-! The fields of a headers block whose entries are strings. Both patterns are sought in the text of
the whole block, so the first match need not be an entry's own: it may begin behind the first
character of an entry, inside its value. At the key of an entry a content type ends at the first
quote of any kind. -/

namespace EndpointManifest

open Text

variable {α : Type} {p : Pattern α}

namespace Options

/-- A pattern that is sought at quotes and at names, behind any character but those of a key. -/
structure AtKeys (p : Pattern α) : Prop where
  before : ∀ {b : Option Char}, b.any isKeyChar = false → ∀ t, p b t = p none t
  start : ∀ {b c t r}, p b (c :: t) = some r → (isQuote c || isKeyChar c) = true

theorem atKeys_contentType : AtKeys contentTypePattern where
  before := by
    intro b hb t
    simp only [contentTypePattern, hb, Option.any_none]
  start := by
    intro b c t r h
    rw [contentTypePattern_start h, Bool.true_or]

theorem atKeys_bearer : AtKeys bearerPattern where
  before := by
    intro b hb t
    simp only [bearerPattern, hb, Option.any_none]
  start := by
    intro b c t r h
    obtain ⟨_, q, word, _, _, _, _, _, _, hq, hword, _, _, _, _, _, _, ht⟩ :=
      bearerPattern_isSome.1 (Option.isSome_of_eq_some h)
    rcases hq with rfl | rfl | rfl
    · cases hword with
      | cons hletter _ =>
        obtain ⟨rfl, _⟩ := List.cons.inj ht
        rw [isKeyChar_of_sameLetter (.inl (by decide)) hletter, Bool.or_true]
    · obtain ⟨rfl, _⟩ := List.cons.inj ht
      rfl
    · obtain ⟨rfl, _⟩ := List.cons.inj ht
      rfl

def Idle (u : Text) : Prop := ∀ c ∈ u, (isQuote c || isKeyChar c) = false

theorem idle_of_allBlank {bl : Text} (h : AllBlank bl) : Idle bl := by
  intro c hc
  rw [(Key.isPassed_of_isBlank (h c hc)).2.1, isKeyChar_of_isBlank (h c hc), Bool.or_self]

theorem idle_close (o : Literal) : Idle o.close := by
  intro c hc
  simp only [Literal.close, List.mem_append, List.mem_singleton] at hc
  rcases hc with hc | hc | rfl
  · split at hc
    · obtain rfl := List.mem_singleton.1 hc
      decide
    · cases hc
  · exact idle_of_allBlank o.ending.blank c hc
  · decide

theorem AtKeys.quiet (hp : AtKeys p) {u : Text} (hu : Idle u) (b : Option Char) (v : Text) :
    Quiet p b u v :=
  quiet_of_first hp.start hu b v

theorem endOf_blanks {bl : Text} (h : AllBlank bl) {b : Option Char} (hb : b.any isKeyChar = false) :
    (endOf b bl).any isKeyChar = false := by
  induction bl generalizing b with
  | nil => exact hb
  | cons c bl ih =>
    exact ih (fun d hd => h d (by simp [hd])) (by simp [isKeyChar_of_isBlank (h c (by simp))])

/-- What the first match that begins in an entry recognises, entry by entry. -/
def firstIn? (p : Pattern α) (ending : Text) : List Entry → Option α
  | [] => none
  | e :: es => (firstWithin? p none e.text (e.back.text ++ Literal.behind ending es)).or
      (firstIn? p ending es)

theorem text_bare {e : Entry} {name : Text} (h : e.key = .bare name) (w : Text) :
    e.text ++ w = name ++ (e.beforeColon.text ++ ':' :: (e.afterColon.text ++ (e.value ++ w))) := by
  rw [Entry.text, h]
  simp [WrittenKey.text]

theorem bare_key {e : Entry} {name : Text} (h : e.key = .bare name) :
    (∃ c rest, name = c :: rest ∧ isQuote c = false) ∧ ∀ d ∈ name, isKeyChar d = true := by
  have hkey := e.isKey
  rw [h] at hkey
  obtain ⟨c, rest, rfl, hc, hrest⟩ := hkey
  obtain ⟨_, hquote, hchar⟩ := Key.isNameStart_ne hc
  refine ⟨⟨c, rest, rfl, hquote⟩, ?_⟩
  simp only [List.mem_cons, forall_eq_or_imp]
  exact ⟨hchar, fun d hd => by simp [isKeyChar, hrest d hd]⟩

theorem text_quoted {e : Entry} {q : Char} {name : Text} (h : e.key = .quoted q name) (w : Text) :
    e.text ++ w = q :: (name ++ q :: (e.beforeColon.text ++ ':' :: (e.afterColon.text ++
      (e.value ++ w)))) := by
  rw [Entry.text, h]
  simp [WrittenKey.text]

theorem quoted_key {e : Entry} {q : Char} {name : Text} (h : e.key = .quoted q name) :
    (q = '\'' ∨ q = '"') ∧ isQuote q = true ∧ q ∉ name := by
  have hkey := e.isKey
  rw [h] at hkey
  refine ⟨hkey.1, ?_, fun hmem => (hkey.2 q hmem).1 rfl⟩
  rcases hkey.1 with rfl | rfl <;> rfl

theorem exists_text (e : Entry) : ∃ c t, e.text = c :: t := by
  have htext := List.append_nil e.text
  cases hkey : e.key with
  | bare name =>
    obtain ⟨⟨c, rest, rfl, _⟩, _⟩ := bare_key hkey
    exact ⟨c, _, htext.symm.trans (text_bare hkey [])⟩
  | quoted q name => exact ⟨q, _, htext.symm.trans (text_quoted hkey [])⟩

theorem first?_renderEntries (hp : AtKeys p) {ending : Text} (hending : Idle ending)
    (es : List Entry) {b : Option Char} (hb : b.any isKeyChar = false) :
    first? p b (Literal.renderEntries ending es) = firstIn? p ending es := by
  have hlast (b : Option Char) : first? p b ending = none := by
    have := first?_quiet (hp.quiet hending b [])
    rwa [List.append_nil] at this
  induction es generalizing b with
  | nil => exact hlast b
  | cons e es ih =>
    have hnext (b : Option Char) :
        first? p b (Literal.behind ending es) = firstIn? p ending es := by
      cases es with
      | nil => exact hlast b
      | cons e' es =>
        have hcomma : Quiet p b [','] (Literal.renderEntries ending (e' :: es)) :=
          hp.quiet (by unfold Idle; decide) b _
        rw [← ih (b := some ',') (by decide)]
        exact first?_quiet hcomma
    obtain ⟨c, t, htext⟩ := exists_text e
    have hwithin (w : Text) : firstWithin? p (endOf b e.front.text) e.text w =
        firstWithin? p none e.text w := by
      rw [htext, firstWithin?, firstWithin?, hp.before (endOf_blanks e.front.blank hb)]
    rw [Literal.renderEntries_behind, Entry.padded, List.append_assoc, List.append_assoc,
      first?_quiet (hp.quiet (idle_of_allBlank e.front.blank) b _), first?_split, hwithin,
      first?_quiet (hp.quiet (idle_of_allBlank e.back.blank) _ _), hnext, firstIn?]

theorem first?_render (hp : AtKeys p) (o : Literal) :
    first? p none o.render = firstIn? p o.close o.entries := by
  have hbrace : Quiet p none ['{'] (Literal.renderEntries o.close o.entries) :=
    hp.quiet (by unfold Idle; decide) none _
  rw [← first?_renderEntries hp (idle_close o) o.entries (b := some '{') (by decide)]
  exact first?_quiet hbrace

structure IsHeader (e : Entry) : Prop where
  literal : ∃ q content, isQuote q = true ∧ e.value = q :: (content ++ [q])
  braceless : ∀ c ∈ e.text, c ≠ '{' ∧ c ≠ '}'

def content (e : Entry) : Text := e.value.tail.dropLast

theorem IsHeader.value_eq {e : Entry} (he : IsHeader e) :
    ∃ q, isQuote q = true ∧ ∀ w, e.value ++ w = q :: (content e ++ q :: w) := by
  obtain ⟨q, inside, hq, hvalue⟩ := he.literal
  refine ⟨q, hq, fun w => ?_⟩
  rw [content, hvalue, List.tail_cons, List.dropLast_concat]
  simp

/-- Blanks, a colon and blanks before a character that is none, in one way. -/
theorem colon_unique {bl bl' x y u v : Text} {c d : Char} (hbl : AllBlank bl) (hbl' : AllBlank bl')
    (hx : AllBlank x) (hy : AllBlank y) (hc : isBlank c = false) (hd : isBlank d = false)
    (h : bl ++ ':' :: (x ++ c :: u) = bl' ++ ':' :: (y ++ d :: v)) : c :: u = d :: v := by
  have hcolon := congrArg skipBlanks h
  rw [Key.skipBlanks_colon hbl, Key.skipBlanks_colon hbl'] at hcolon
  have hvalue := congrArg skipBlanks (List.cons.inj hcolon).2
  rwa [skipBlanks_append hx, skipBlanks_append hy, skipBlanks_cons hc, skipBlanks_cons hd] at hvalue

theorem not_mem_keyChars {word : Text} (h : ∀ c ∈ word, isKeyChar c = true) {q : Char}
    (hq : isQuote q = true) : q ∉ word := by
  intro hmem
  rw [(Key.isKeyChar_ne (h q hmem)).1] at hq
  cases hq

def isTyped (e : Entry) : Bool :=
  match e.key with
  | .quoted _ name => afterAnyCase? contentTypeName name == some []
  | .bare _ => false

theorem isTyped_iff {e : Entry} : isTyped e = true ↔
    ∃ q name, e.key = .quoted q name ∧ SameLetters contentTypeName name := by
  unfold isTyped
  cases e.key with
  | bare name => simp
  | quoted q name =>
    rw [beq_iff_eq, afterAnyCase?_eq_some]
    simp

def upToQuote (t : Text) : Text := t.takeWhile fun c => !isQuote c

theorem upToQuote_append {u : Text} (hu : ∀ c ∈ u, isQuote c = false) {q : Char}
    (hq : isQuote q = true) (v : Text) : upToQuote (u ++ q :: v) = u := by
  rw [upToQuote, List.takeWhile_append_of_pos (by simpa using hu),
    List.takeWhile_cons_of_neg (by simp [hq]), List.append_nil]

theorem exists_upToQuote (u : Text) {k : Char} (hk : isQuote k = true) (v : Text) :
    ∃ q rest, isQuote q = true ∧ (∀ c ∈ upToQuote u, isQuote c = false) ∧
      u ++ k :: v = upToQuote u ++ q :: rest := by
  have hquotes : ∀ c ∈ upToQuote u, isQuote c = false := fun c hc => by
    simpa using List.mem_takeWhile_imp hc
  have hsplit : upToQuote u ++ u.dropWhile (fun c => !isQuote c) = u :=
    List.takeWhile_append_dropWhile
  cases hdrop : u.dropWhile fun c => !isQuote c with
  | nil =>
    rw [hdrop, List.append_nil] at hsplit
    exact ⟨k, v, hk, hquotes, by rw [hsplit]⟩
  | cons q rest =>
    have hq := List.head?_dropWhile_not (fun c => !isQuote c) u
    rw [hdrop] at hq hsplit
    refine ⟨q, rest ++ k :: v, by simpa using hq, hquotes, ?_⟩
    conv_lhs => rw [← hsplit]
    simp

def typeOf? (e : Entry) : Option Text :=
  if isTyped e = true ∧ upToQuote (content e) ≠ [] then some (upToQuote (content e)) else none

/-- At the key of an entry the pattern takes what stands before the first quote of its value. -/
theorem contentTypePattern_text {e : Entry} (he : IsHeader e) (w : Text) :
    (contentTypePattern none (e.text ++ w)).map (·.1) = typeOf? e := by
  obtain ⟨k, hk, hvalue⟩ := he.value_eq
  refine Option.ext fun type => ?_
  rw [Option.map_eq_some_iff]
  unfold typeOf?
  constructor
  · rintro ⟨⟨_, rest⟩, hmatch, rfl⟩
    obtain ⟨_, q, word, bl, bl', q', q'', hq, hword, hbl, hbl', hq', hq'', hne, hall, ht⟩ :=
      contentTypePattern_eq_some.1 hmatch
    have hquote : isQuote q = true := by rcases hq with rfl | rfl <;> rfl
    cases hkey : e.key with
    | bare name =>
      obtain ⟨⟨c, tail, rfl, hc⟩, _⟩ := bare_key hkey
      rw [text_bare hkey] at ht
      obtain ⟨rfl, _⟩ := List.cons.inj ht
      rw [hc] at hquote
      cases hquote
    | quoted k' name =>
      rw [text_quoted hkey, hvalue] at ht
      obtain ⟨rfl, hname⟩ := List.cons.inj ht
      have hmem : k' ∉ word := not_mem_keyChars (hword.keyChars (by decide)) hquote
      obtain ⟨rfl, hcolon⟩ := split_unique (quoted_key hkey).2.2 hmem hname
      have hafter := colon_unique e.beforeColon.blank hbl e.afterColon.blank hbl' (isBlank_quote hk)
        (isBlank_quote hq') hcolon
      obtain ⟨_, hinside⟩ := List.cons.inj hafter
      have htype := congrArg upToQuote hinside
      obtain ⟨d, after, hd, hfront, hcontent⟩ := exists_upToQuote (content e) hk w
      rw [hcontent, upToQuote_append hfront hd, upToQuote_append hall hq''] at htype
      rw [if_pos ⟨isTyped_iff.2 ⟨k', name, hkey, hword⟩, by rwa [htype]⟩, htype]
  · intro h
    split_ifs at h with htyped
    obtain rfl := Option.some.inj h
    obtain ⟨⟨q, name, hkey, hword⟩, hne⟩ := htyped.imp_left isTyped_iff.1
    obtain ⟨d, after, hd, hfront, hcontent⟩ := exists_upToQuote (content e) hk w
    refine ⟨(upToQuote (content e), after), contentTypePattern_eq_some.2 ⟨rfl, q, name,
      e.beforeColon.text, e.afterColon.text, k, d, (quoted_key hkey).1, hword, e.beforeColon.blank,
      e.afterColon.blank, hk, hd, hne, hfront, ?_⟩, rfl⟩
    rw [text_quoted hkey, hvalue, hcontent]

theorem run_unique {m : Char → Bool} {u x u' y : Text} (hne : u ≠ []) (hne' : u' ≠ [])
    (hu : ∀ c ∈ u, m c = true) (hu' : ∀ c ∈ u', m c = true)
    (hx : ∀ c, x.head? = some c → m c = false) (hy : ∀ c, y.head? = some c → m c = false)
    (h : u ++ x = u' ++ y) : u = u' ∧ x = y := by
  have hrun := run?_eq_some.2 ⟨hne, hu, hx, rfl⟩
  rw [h, run?_eq_some.2 ⟨hne', hu', hy, rfl⟩] at hrun
  obtain ⟨rfl, rfl⟩ := Prod.mk.inj (Option.some.inj hrun)
  exact ⟨rfl, rfl⟩

/-- A name of an authorisation before its colon, in quotes or bare, is the key of the entry. -/
theorem key_of_text {e : Entry} {q word bl y w : Text} (hq : q = [] ∨ q = ['\''] ∨ q = ['"'])
    (hword : SameLetters authorizationName word) (hbl : AllBlank bl)
    (h : e.text ++ w = q ++ (word ++ (q ++ (bl ++ ':' :: y)))) :
    e.key.name = word ∧ e.beforeColon.text ++ ':' :: (e.afterColon.text ++ (e.value ++ w)) =
      bl ++ ':' :: y := by
  have hletters := hword.keyChars (by decide)
  obtain ⟨a, tail, rfl⟩ : ∃ a tail, word = a :: tail := by
    cases hword with
    | cons _ _ => exact ⟨_, _, rfl⟩
  cases hkey : e.key with
  | bare name =>
    obtain ⟨⟨c, rest, rfl, hcquote⟩, hname⟩ := bare_key hkey
    rw [text_bare hkey] at h
    rcases hq with rfl | rfl | rfl
    · exact run_unique (List.cons_ne_nil c rest) (List.cons_ne_nil a tail) hname hletters
        (fun d hd => (Key.head_of_colon e.beforeColon.blank hd).1)
        (fun d hd => (Key.head_of_colon hbl hd).1) h
    · obtain ⟨rfl, _⟩ := List.cons.inj h
      cases hcquote
    · obtain ⟨rfl, _⟩ := List.cons.inj h
      cases hcquote
  | quoted k name =>
    obtain ⟨_, hkquote, hmem⟩ := quoted_key hkey
    rw [text_quoted hkey] at h
    have hnot {c : Char} (hc : isQuote c = true) : c ∉ a :: tail := not_mem_keyChars hletters hc
    rcases hq with rfl | rfl | rfl
    · obtain ⟨rfl, _⟩ := List.cons.inj h
      exact absurd (by simp) (hnot hkquote)
    · obtain ⟨rfl, hname⟩ := List.cons.inj h
      exact split_unique hmem (hnot rfl) hname
    · obtain ⟨rfl, hname⟩ := List.cons.inj h
      exact split_unique hmem (hnot rfl) hname

def StartsBearer (t : Text) : Prop :=
  ∃ bl word rest, AllBlank bl ∧ SameLetters bearerWord word ∧ rest.head?.any isWord = false ∧
    t = bl ++ (word ++ rest)

theorem startsBearer_append {k : Char} (hk : isQuote k = true) (u w : Text) :
    StartsBearer (u ++ k :: w) ↔ StartsBearer u := by
  have hkword : isWord k = false := by
    rcases isQuote_iff.1 hk with rfl | rfl | rfl <;> rfl
  constructor
  · rintro ⟨bl, word, rest, hbl, hword, hedge, h⟩
    have hfront : k ∉ bl ++ word := by
      simp only [List.mem_append, not_or]
      exact ⟨not_mem_blanks hbl (isBlank_quote hk), not_mem_keyChars (hword.keyChars (by decide)) hk⟩
    rw [← List.append_assoc] at h
    rcases List.append_eq_append_iff.1 h with ⟨a, ha, hrest⟩ | ⟨a, rfl, hrest⟩
    · cases a with
      | nil =>
        refine ⟨bl, word, [], hbl, hword, rfl, ?_⟩
        rw [List.append_nil] at ha
        rw [← ha, List.append_nil]
      | cons c a =>
        obtain ⟨rfl, _⟩ := List.cons.inj hrest
        exact absurd (by rw [ha]; simp) hfront
    · refine ⟨bl, word, a, hbl, hword, ?_, List.append_assoc ..⟩
      cases a with
      | nil => rfl
      | cons c a => rwa [hrest] at hedge
  · rintro ⟨bl, word, rest, hbl, hword, hedge, rfl⟩
    refine ⟨bl, word, rest ++ k :: w, hbl, hword, ?_, by simp⟩
    cases rest with
    | nil => exact hkword
    | cons c rest => exact hedge

def Authorises (e : Entry) : Prop :=
  SameLetters authorizationName e.key.name ∧ StartsBearer (content e)

/-- At the key of an entry the pattern looks for an authorisation with a bearer token. -/
theorem bearerPattern_text {e : Entry} (he : IsHeader e) (w : Text) :
    (bearerPattern none (e.text ++ w)).isSome = true ↔ Authorises e := by
  obtain ⟨k, hk, hvalue⟩ := he.value_eq
  rw [bearerPattern_isSome]
  constructor
  · rintro ⟨_, q, word, bl, bl', q', bl'', word', rest, hq, hword, hbl, hbl', hq', hbl'', hword',
      hedge, ht⟩
    obtain ⟨rfl, hcolon⟩ := key_of_text hq hword hbl ht
    rw [hvalue] at hcolon
    have hafter := colon_unique e.beforeColon.blank hbl e.afterColon.blank hbl' (isBlank_quote hk)
      (isBlank_quote hq') hcolon
    obtain ⟨_, hinside⟩ := List.cons.inj hafter
    exact ⟨hword, (startsBearer_append hk _ w).1 ⟨bl'', word', rest, hbl'', hword', hedge, hinside⟩⟩
  · rintro ⟨hword, hcontent⟩
    obtain ⟨bl'', word', rest, hbl'', hword', hedge, hinside⟩ := (startsBearer_append hk _ w).2 hcontent
    refine ⟨rfl, ?_⟩
    cases hkey : e.key with
    | bare name =>
      rw [hkey] at hword
      refine ⟨[], name, e.beforeColon.text, e.afterColon.text, k, bl'', word', rest, .inl rfl, hword,
        e.beforeColon.blank, e.afterColon.blank, hk, hbl'', hword', hedge, ?_⟩
      rw [← hinside, ← hvalue, text_bare hkey]
      rfl
    | quoted q name =>
      rw [hkey] at hword
      refine ⟨[q], name, e.beforeColon.text, e.afterColon.text, k, bl'', word', rest, .inr ?_, hword,
        e.beforeColon.blank, e.afterColon.blank, hk, hbl'', hword', hedge, ?_⟩
      · exact (quoted_key hkey).1.imp (by rintro rfl; rfl) (by rintro rfl; rfl)
      · rw [← hinside, ← hvalue, text_quoted hkey]
        rfl

end Options
end EndpointManifest
