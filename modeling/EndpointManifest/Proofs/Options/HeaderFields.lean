import EndpointManifest.Proofs.Options.HeaderEntries
import EndpointManifest.Proofs.Recovered

/-! The fields of options whose headers are an object literal of strings. They are what the entries
give where no entry holds header-like text behind its first character and no content type holds a
quote; any other text in the block is read just as if it were a header. -/

namespace EndpointManifest.Options

open Text

def bearing (q word bl bl' : Text) (q' : Char) (bl'' word' : Text) : Text :=
  q ++ (word ++ (q ++ (bl ++ ':' :: (bl' ++ q' :: (bl'' ++ word')))))

theorem not_mem_bearing {q word bl bl' bl'' word' : Text} {q' c : Char}
    (hq : q = [] ∨ q = ['\''] ∨ q = ['"']) (hword : SameLetters authorizationName word)
    (hbl : AllBlank bl) (hbl' : AllBlank bl') (hq' : isQuote q' = true) (hbl'' : AllBlank bl'')
    (hword' : SameLetters bearerWord word') (hc : c = ',' ∨ c = '}') :
    c ∉ bearing q word bl bl' q' bl'' word' := by
  have hclass : isBlank c = false ∧ c ≠ ':' ∧ isQuote c = false ∧ isKeyChar c = false := by
    rcases hc with rfl | rfl <;> decide
  obtain ⟨hblank, hcolon, hquote, hkey⟩ := hclass
  have hmark : c ∉ q := by
    rintro hmem
    rcases hq with rfl | rfl | rfl
    · cases hmem
    · obtain rfl := List.mem_singleton.1 hmem
      cases hquote
    · obtain rfl := List.mem_singleton.1 hmem
      cases hquote
  have hletters {word : Text} (h : ∀ d ∈ word, isKeyChar d = true) : c ∉ word := fun hmem => by
    rw [h c hmem] at hkey
    cases hkey
  have hopen : c ≠ q' := by
    rintro rfl
    rw [hq'] at hquote
    cases hquote
  simp only [bearing, List.mem_append, List.mem_cons, not_or]
  exact ⟨hmark, hletters (hword.keyChars (by decide)), hmark, not_mem_blanks hbl hblank, hcolon,
    not_mem_blanks hbl' hblank, hopen, not_mem_blanks hbl'' hblank,
    hletters (hword'.keyChars (by decide))⟩

theorem getLast?_bearing (q word bl bl' : Text) (q' : Char) (bl'' : Text) {word' : Text}
    (h : SameLetters bearerWord word') :
    ∃ c, (bearing q word bl bl' q' bl'' word').getLast? = some c ∧ isBlank c = false := by
  have hlatin := SameLetters.latin (by decide) h
  rcases List.eq_nil_or_concat word' with rfl | ⟨front, c, rfl⟩
  · cases h
  · refine ⟨c, ?_, isBlank_latin (hlatin c (by simp))⟩
    have hsnoc : bearing q word bl bl' q' bl'' (front.concat c) =
        bearing q word bl bl' q' bl'' front ++ [c] := by simp [bearing]
    rw [hsnoc, List.getLast?_concat]

/-- A match that begins before the end of an entry ends there too. -/
theorem bearerPattern_append {b : Option Char} {c : Char} {y v : Text} (hv : Literal.Closes v) :
    (bearerPattern b (c :: y ++ v)).isSome = (bearerPattern b (c :: y)).isSome := by
  have hedge : v.head?.any isWord = false := by
    obtain ⟨bl, d, rest, hbl, hd, rfl⟩ := hv
    cases bl with
    | nil => rcases hd with rfl | rfl <;> rfl
    | cons a bl => exact isWord_of_isBlank (hbl a (by simp))
  rw [Bool.eq_iff_iff, bearerPattern_isSome, bearerPattern_isSome]
  constructor
  · rintro ⟨hb, q, word, bl, bl', q', bl'', word', rest, hq, hword, hbl, hbl', hq', hbl'', hword',
      hrest, ht⟩
    have hsplit : c :: y ++ v = bearing q word bl bl' q' bl'' word' ++ rest := by
      rw [ht]
      simp [bearing]
    obtain ⟨d, hlast, hblank⟩ := getLast?_bearing q word bl bl' q' bl'' hword'
    obtain ⟨a, ha, hra⟩ := hv.split hsplit hlast hblank fun d hd =>
      not_mem_bearing hq hword hbl hbl' hq' hbl'' hword' hd
    refine ⟨hb, q, word, bl, bl', q', bl'', word', a, hq, hword, hbl, hbl', hq', hbl'', hword', ?_,
      by simp [ha, bearing]⟩
    cases a with
    | nil => rfl
    | cons d a => rwa [hra] at hrest
  · rintro ⟨hb, q, word, bl, bl', q', bl'', word', rest, hq, hword, hbl, hbl', hq', hbl'', hword',
      hrest, ht⟩
    refine ⟨hb, q, word, bl, bl', q', bl'', word', rest ++ v, hq, hword, hbl, hbl', hq', hbl'',
      hword', ?_, by simp [ht]⟩
    cases rest with
    | nil => exact hedge
    | cons d rest => exact hrest

/-- An authorisation with a bearer token in the text of an entry, behind its first character. -/
def EchoesBearer (e : Entry) : Prop :=
  ∃ x c y, x ≠ [] ∧ e.text = x ++ c :: y ∧ (bearerPattern (endOf none x) (c :: y)).isSome = true

/-- A match in an entry is at its key or behind its first character. -/
theorem bearer_entry {e : Entry} (he : IsHeader e) {v : Text} (hv : Literal.Closes v) :
    (firstWithin? bearerPattern none e.text v).isSome = true ↔ Authorises e ∨ EchoesBearer e := by
  have hlocal : firstWithin? bearerPattern none e.text v = first? bearerPattern none e.text := by
    refine firstWithin?_local fun x c y _ => ?_
    have hsome := @bearerPattern_append (endOf none x) c y v hv
    cases h : bearerPattern (endOf none x) (c :: y ++ v) <;>
      cases h' : bearerPattern (endOf none x) (c :: y) <;> simp_all
  have hkey := bearerPattern_text he []
  rw [List.append_nil] at hkey
  rw [hlocal, first?_isSome, ← hkey]
  constructor
  · rintro ⟨x, c, y, hsplit, hmatch⟩
    by_cases hnil : x = []
    · subst hnil
      exact .inl (by rwa [hsplit])
    · exact .inr ⟨x, c, y, hnil, hsplit, hmatch⟩
  · rintro (hmatch | ⟨x, c, y, _, hsplit, hmatch⟩)
    · obtain ⟨c, t, htext⟩ := exists_text e
      exact ⟨[], c, t, htext, by rwa [← htext]⟩
    · exact ⟨x, c, y, hsplit, hmatch⟩

theorem bearer_entries {ending : Text} (hending : Literal.Closes ending) {es : List Entry}
    (hes : ∀ e ∈ es, IsHeader e) : (firstIn? bearerPattern ending es).isSome = true ↔
      ∃ e ∈ es, Authorises e ∨ EchoesBearer e := by
  induction es with
  | nil => simp [firstIn?]
  | cons e es ih =>
    have hclose := Literal.closes_append e.back.blank (Literal.closes_behind hending es)
    rw [firstIn?, Option.isSome_or, Bool.or_eq_true, bearer_entry (hes e (by simp)) hclose,
      ih fun e' he' => hes e' (by simp [he'])]
    simp

/-- What follows a content type's name in quotes and its colon, at the front of a text. -/
def afterTypeName? (t : Text) : Option Text := do
  let (q, rest) ← quote? t
  guard (q != '`')
  afterMark? ':' (← after? [q] (← afterAnyCase? contentTypeName rest))

theorem afterTypeName?_written {q : Char} {word bl : Text} (hq : q = '\'' ∨ q = '"')
    (hword : SameLetters contentTypeName word) (hbl : AllBlank bl) (rest : Text) :
    afterTypeName? (q :: (word ++ q :: (bl ++ ':' :: rest))) = some rest := by
  have hclass : isQuote q = true ∧ (q != '`') = true := by rcases hq with rfl | rfl <;> decide
  simp only [afterTypeName?, Option.bind_eq_bind, Option.bind_eq_some_iff, Option.guard_eq_some',
    exists_const, Prod.exists, quote?_eq_some, after?_eq_some, afterAnyCase?_eq_some,
    afterMark?_eq_some (c := ':') (by decide)]
  exact ⟨q, _, ⟨hclass.1, rfl⟩, hclass.2, _, ⟨word, hword, rfl⟩, _, rfl, bl, hbl, rfl⟩

/-- A content type's name in quotes and a colon, anywhere in a text. -/
def Mentions (t : Text) : Prop := ∃ v ∈ t.tails, (afterTypeName? v).isSome = true

instance (t : Text) : Decidable (Mentions t) := inferInstanceAs (Decidable (∃ v ∈ t.tails, _))

/-- Where a text mentions no content type, none is found, whatever closes its entry. -/
theorem quiet_of_not_mentions {t : Text} (h : ¬ Mentions t) (b : Option Char) {v : Text}
    (hv : Literal.Closes v) : Quiet contentTypePattern b t v := by
  apply quiet_of_no_match
  rintro x c y ⟨value, rest⟩ rfl hmatch
  obtain ⟨_, q, word, bl, bl', q', q'', hq, hword, hbl, _, _, _, _, _, ht⟩ :=
    contentTypePattern_eq_some.1 hmatch
  have hsplit : c :: y ++ v = (q :: (word ++ q :: bl) ++ [':']) ++
      (bl' ++ q' :: (value ++ q'' :: rest)) := by
    rw [ht]
    simp
  have hnot : ∀ d, d = ',' ∨ d = '}' → d ∉ q :: (word ++ q :: bl) ++ [':'] := by
    intro d hd
    have hclass : isKeyChar d = false ∧ isBlank d = false ∧ d ≠ ':' ∧ d ≠ '\'' ∧ d ≠ '"' := by
      rcases hd with rfl | rfl <;> decide
    obtain ⟨hkey, hblank, hcolon, hsingle, hdouble⟩ := hclass
    have hdq : d ≠ q := by rcases hq with rfl | rfl <;> assumption
    have hdword : d ∉ word := fun hmem => by
      rw [hword.keyChars (by decide) d hmem] at hkey
      cases hkey
    simp [hdq, hdword, hcolon, not_mem_blanks hbl hblank]
  obtain ⟨a, ha, _⟩ := hv.split hsplit List.getLast?_concat (by decide) hnot
  refine h ⟨c :: y, by simp, ?_⟩
  have hfront : c :: y = q :: (word ++ q :: (bl ++ ':' :: a)) := by
    rw [ha]
    simp
  rw [hfront, afterTypeName?_written hq hword hbl]
  rfl

/-- The content type that is read behind the first character of an entry, with `w` after it. -/
def echoedType? (e : Entry) (w : Text) : Option Text :=
  firstWithin? contentTypePattern e.text.head? e.text.tail w

/-- The first content type that is read, be it what an entry gives or not. -/
def typeIn? (ending : Text) : List Entry → Option Text
  | [] => none
  | e :: es => ((typeOf? e).or (echoedType? e (e.back.text ++ Literal.behind ending es))).or
      (typeIn? ending es)

theorem type_entries {ending : Text} {es : List Entry} (hes : ∀ e ∈ es, IsHeader e) :
    firstIn? contentTypePattern ending es = typeIn? ending es := by
  induction es with
  | nil => rfl
  | cons e es ih =>
    rw [firstIn?, typeIn?, ih fun e' he' => hes e' (by simp [he'])]
    congr 1
    obtain ⟨c, t, htext⟩ := exists_text e
    have hkey := contentTypePattern_text (hes e (by simp)) (e.back.text ++ Literal.behind ending es)
    rw [echoedType?, ← hkey, htext, firstWithin?]
    cases contentTypePattern none (c :: t ++ (e.back.text ++ Literal.behind ending es)) <;> rfl

theorem typeIn?_of_not_mentions {ending : Text} (hending : Literal.Closes ending) {es : List Entry}
    (h : ∀ e ∈ es, ¬ Mentions e.text.tail) : typeIn? ending es = es.findSome? typeOf? := by
  induction es with
  | nil => rfl
  | cons e es ih =>
    have hclose := Literal.closes_append e.back.blank (Literal.closes_behind hending es)
    have hecho : echoedType? e (e.back.text ++ Literal.behind ending es) = none :=
      firstWithin?_quiet (quiet_of_not_mentions (h e (by simp)) _ hclose)
    rw [typeIn?, hecho, Option.or_none, ih fun e' he' => h e' (by simp [he']), List.findSome?_cons]
    cases typeOf? e <;> rfl

/-- What the entries give as content type: the whole content of the first entry so named. -/
def declaredType? (es : List Entry) : Option Text := (es.find? isTyped).map fun e => trim (content e)

theorem findSome?_typeOf? {es : List Entry} (h : ∀ e, es.find? isTyped = some e →
    content e ≠ [] ∧ ∀ c ∈ content e, isQuote c = false) :
    (es.findSome? typeOf?).map trim = declaredType? es := by
  induction es with
  | nil => rfl
  | cons e es ih =>
    unfold declaredType? at ih ⊢
    rw [List.findSome?_cons]
    rw [List.find?_cons] at h ⊢
    cases htyped : isTyped e with
    | true =>
      rw [htyped] at h
      obtain ⟨hne, hquotes⟩ := h e rfl
      have hfront : upToQuote (content e) = content e :=
        List.takeWhile_eq_self_iff.2 fun c hc => by simp [hquotes c hc]
      rw [typeOf?, hfront, if_pos ⟨htyped, hne⟩]
      rfl
    | false =>
      rw [htyped] at h
      rw [typeOf?, if_neg (by simp [htyped])]
      exact ih h

theorem headersBlock_literal {o h : Literal} (hplain : ∀ e ∈ o.entries, e.key.IsPlain) {e : Entry}
    (hfind : o.entries.find? (Entry.isNamed ["headers".toList]) = some e) (hvalue : e.value = h.render)
    (hheaders : ∀ e ∈ h.entries, IsHeader e) : headersBlock o.render = h.render := by
  let ending : Text := (if h.trailing then [','] else []) ++ h.ending.text
  have hrender : h.render = '{' :: (Literal.renderEntries ending h.entries ++ ['}']) := by
    rw [Literal.render, Literal.close, ← List.append_assoc, Literal.renderEntries_append]
  have hbraceless : ∀ c ∈ Literal.renderEntries ending h.entries, c ≠ '{' ∧ c ≠ '}' := by
    intro c hc
    have hidle {bl : Text} (hbl : AllBlank bl) (hc : c ∈ bl) : c ≠ '{' ∧ c ≠ '}' := by
      constructor <;>
      · rintro rfl
        exact not_mem_blanks hbl (by decide) hc
    rcases Literal.mem_renderEntries hc with hc | rfl | ⟨e', he', hc⟩
    · rcases List.mem_append.1 hc with hc | hc
      · split at hc
        · obtain rfl := List.mem_singleton.1 hc
          decide
        · cases hc
      · exact hidle h.ending.blank hc
    · decide
    · rcases List.mem_append.1 hc with hc | hc
      · exact hidle e'.front.blank hc
      · rcases List.mem_append.1 hc with hc | hc
        · exact (hheaders e' he').braceless c hc
        · exact hidle e'.back.blank hc
  have hbalanced := Delimiter.balanced_of_not_mem (o := '{') (c := '}')
    (fun hmem => (hbraceless _ hmem).1 rfl) (fun hmem => (hbraceless _ hmem).2 rfl)
  rw [headersBlock_eq hplain hfind (hvalue.trans hrender) hbalanced, hvalue]

/-- A content type with a quote in it is never what is read. -/
theorem contentType_ne_of_quote {options : Text} {es : List Entry} {e : Entry}
    (h : es.find? isTyped = some e) {c : Char} (hc : c ∈ content e) (hquote : isQuote c = true) :
    (fields options).contentType ≠ declaredType? es := by
  intro heq
  rw [declaredType?, h] at heq
  obtain ⟨_, hquotes⟩ := contentType_unquoted heq
  rw [hquotes c (mem_trim hc (isBlank_quote hquote))] at hquote
  cases hquote

/-- The fields of options whose headers are an object literal of strings. The content type is the
first one that is read anywhere in the entries. That is what the first entry of the name gives if no
entry mentions a content type behind its first character and the content of that entry is not empty
and holds no quote; it never is if the content holds one. A token is found if and only if an entry
authorises with one or has such text behind its first character. -/
theorem headers_fields_iff {o h : Literal} (hplain : ∀ e ∈ o.entries, e.key.IsPlain) {e : Entry}
    (hfind : o.entries.find? (Entry.isNamed ["headers".toList]) = some e) (hvalue : e.value = h.render)
    (hheaders : ∀ e ∈ h.entries, IsHeader e) :
    (fields o.render).contentType = (typeIn? h.close h.entries).map trim ∧
    ((∀ e ∈ h.entries, ¬ Mentions e.text.tail) →
      (fields o.render).contentType = (h.entries.findSome? typeOf?).map trim ∧
      ((∀ e, h.entries.find? isTyped = some e →
          content e ≠ [] ∧ ∀ c ∈ content e, isQuote c = false) →
        (fields o.render).contentType = declaredType? h.entries)) ∧
    (∀ e, h.entries.find? isTyped = some e → (∃ c ∈ content e, isQuote c = true) →
      (fields o.render).contentType ≠ declaredType? h.entries) ∧
    ((fields o.render).bearer = true ↔ ∃ e ∈ h.entries, Authorises e ∨ EchoesBearer e) := by
  have hblock := headersBlock_literal hplain hfind hvalue hheaders
  have htype : (fields o.render).contentType = (typeIn? h.close h.entries).map trim := by
    have hfirst := find?_value contentTypePattern h.render
    rw [first?_render atKeys_contentType, type_entries hheaders] at hfirst
    rw [← hfirst, Option.map_map, fields, hblock]
    rfl
  refine ⟨htype, fun hmentions => ?_, ?_, ?_⟩
  · have hown := typeIn?_of_not_mentions h.closes_close hmentions
    rw [hown] at htype
    exact ⟨htype, fun hcontent => htype.trans (findSome?_typeOf? hcontent)⟩
  · rintro e he ⟨c, hc, hquote⟩
    exact contentType_ne_of_quote he hc hquote
  · have hfirst := find?_value bearerPattern h.render
    rw [first?_render atKeys_bearer] at hfirst
    rw [← bearer_entries h.closes_close hheaders, ← hfirst, Option.isSome_map, fields, hblock]

/-- A content type with blanks around it and a token, under names in other letter cases; and a
content type with quotes around it. -/
theorem headers_fields_iff_plain :
    let empty : Gap := ⟨[], allBlank_nil⟩
    let blank : Gap := ⟨[' '], allBlank_space⟩
    let type : Entry := ⟨blank, .quoted '"' "CONTENT-type".toList, empty, blank, "' a/b '".toList,
      empty, ⟨.inr rfl, by decide⟩, .literal (by decide)⟩
    let quoted : Entry := ⟨blank, .quoted '\'' "Content-Type".toList, empty, blank, "'\"b\"'".toList,
      empty, ⟨.inl rfl, by decide⟩, .literal (by decide)⟩
    let token : Entry := ⟨blank, .bare "Authorization".toList, empty, blank, "`Bearer t`".toList,
      blank, ⟨'A', _, rfl, by decide, by decide⟩, .literal (by decide)⟩
    let h : Literal := ⟨[type, token], false, empty, by simp⟩
    let h' : Literal := ⟨[quoted], false, blank, by simp⟩
    let headers (value : Text) (hvalue : IsValue value) : Entry :=
      ⟨blank, .bare "headers".toList, empty, blank, value, blank,
        ⟨'h', _, rfl, by decide, by decide⟩, hvalue⟩
    let o : Literal := ⟨[headers h.render (.block (by decide))], false, empty, by simp⟩
    let o' : Literal := ⟨[headers h'.render (.block (by decide))], false, empty, by simp⟩
    h.render = "\x7b \"CONTENT-type\": ' a/b ', Authorization: `Bearer t` \x7d".toList ∧
      h'.render = "\x7b 'Content-Type': '\"b\"' \x7d".toList ∧
      (fields o.render).contentType = some "a/b".toList ∧ (fields o.render).bearer = true ∧
      (fields o'.render).contentType ≠ some "\"b\"".toList := by
  intro empty blank type quoted token h h' headers o o'
  have htype : IsHeader type := ⟨⟨'\'', " a/b ".toList, rfl, rfl⟩, by decide⟩
  have hquoted : IsHeader quoted := ⟨⟨'\'', "\"b\"".toList, rfl, rfl⟩, by decide⟩
  have htoken : IsHeader token := ⟨⟨'`', "Bearer t".toList, rfl, rfl⟩, by decide⟩
  have hheaders : ∀ e ∈ h.entries, IsHeader e := List.forall_mem_cons.2
    ⟨htype, List.forall_mem_singleton.2 htoken⟩
  have hheaders' : ∀ e ∈ h'.entries, IsHeader e := List.forall_mem_singleton.2 hquoted
  have hplain : ∀ e ∈ o.entries, e.key.IsPlain := List.forall_mem_singleton.2 trivial
  have hplain' : ∀ e ∈ o'.entries, e.key.IsPlain := List.forall_mem_singleton.2 trivial
  obtain ⟨_, hgiven, _, htokens⟩ := headers_fields_iff hplain rfl rfl hheaders
  obtain ⟨_, _, hcut, _⟩ := headers_fields_iff hplain' rfl rfl hheaders'
  have hmentions : ∀ e ∈ h.entries, ¬ Mentions e.text.tail := by decide +kernel
  have hauthorises : Authorises token := by
    refine ⟨?_, [], "Bearer".toList, " t".toList, allBlank_nil, ?_, by decide, by decide⟩
    · unfold SameLetters
      decide
    · unfold SameLetters
      decide
  refine ⟨by decide, by decide, ?_, htokens.2 ⟨token, by simp [h], .inl hauthorises⟩, ?_⟩
  · refine ((hgiven hmentions).2 fun e he => ?_).trans (by decide)
    obtain rfl : type = e := Option.some.inj he
    decide
  · exact hcut quoted rfl ⟨'"', by decide, rfl⟩

/-- A quote of another kind in a content type cuts it short, and text in the value of another header
counts as a header. -/
theorem headers_fields_iff_charset :
    fields "\x7b headers: \x7b 'Content-Type': 'text/plain; charset=\"utf-8\"' \x7d \x7d".toList =
        { contentType := some "text/plain; charset=".toList } ∧
      fields "\x7b headers: \x7b 'X-A': \"'content-type': 'x', authorization: 'Bearer t\" \x7d \x7d".toList =
        { contentType := some ['x'], bearer := true } := by
  decide +kernel

end EndpointManifest.Options
