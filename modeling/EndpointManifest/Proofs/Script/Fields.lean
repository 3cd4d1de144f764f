import EndpointManifest.Proofs.Options.Body
import EndpointManifest.Proofs.Script.Calls

/-! What is recovered from the options of a test: its content type, whether it has a token, and its
body. The headers and the data are the two entries of one object literal. -/

namespace EndpointManifest.Script

open Text Options

namespace Test

def noGap : Gap := ⟨[], allBlank_nil⟩

def space : Gap := ⟨[' '], by decide⟩

theorem isValue_braces {inside : Text} (h : Delimiter.Balanced '{' '}' inside) :
    IsValue ('{' :: (inside ++ ['}'])) := by
  apply IsValue.block
  rw [Delimiter.blockEnd?_closed rfl h]
  simp

def headersName : WrittenKey := .bare "headers".toList
def dataName : WrittenKey := .bare "data".toList

theorem wellFormed_names : headersName.WellFormed ∧ dataName.WellFormed := by
  constructor
  · exact ⟨'h', "eaders".toList, by decide, by decide, by decide⟩
  · exact ⟨'d', "ata".toList, by decide, by decide, by decide⟩

def headersIn (e : Test) : Entry where
  front := space
  key := headersName
  beforeColon := noGap
  afterColon := space
  value := e.headersBlock
  back := noGap
  isKey := wellFormed_names.1
  isValue := by
    have h := isValue_braces e.balanced_inHeaders
    simpa [headersBlock] using h

def dataIn (e : Test) : Entry where
  front := space
  key := dataName
  beforeColon := noGap
  afterColon := space
  value := e.body
  back := noGap
  isKey := wellFormed_names.2
  isValue := isValue_braces e.plain_payload.2

def literal (e : Test) : Literal where
  entries := if e.members = [] then [e.dataIn] else [e.headersIn, e.dataIn]
  trailing := false
  ending := space
  isEnding := by simp

theorem render_literal (e : Test) : e.literal.render = e.options := by
  have hheaders : headersName.text ++ [':', ' '] = headersKey := by decide
  have hdata : dataName.text ++ [':', ' '] = dataKey := by decide
  unfold options headersEntry
  by_cases hnil : e.members = []
  · simp [hnil, literal, Literal.render, Literal.renderEntries, Literal.close, Entry.padded,
      Entry.text, dataIn, space, noGap, ← hdata]
  · simp [hnil, literal, Literal.render, Literal.renderEntries, Literal.close, Entry.padded,
      Entry.text, headersIn, dataIn, space, noGap, ← hheaders, ← hdata]

theorem plain_literal (e : Test) : ∀ entry ∈ e.literal.entries, entry.key.IsPlain := by
  intro entry hentry
  unfold literal at hentry
  split at hentry
  · obtain rfl := List.mem_singleton.1 hentry
    trivial
  · rcases List.mem_cons.1 hentry with rfl | hentry
    · trivial
    · obtain rfl := List.mem_singleton.1 hentry
      trivial

theorem find?_headers (e : Test) :
    e.literal.entries.find? (Entry.isNamed ["headers".toList]) =
      if e.members = [] then none else some e.headersIn := by
  have hdata : Entry.isNamed ["headers".toList] e.dataIn = false := by
    show (["headers".toList].map lower).contains (lower "data".toList) = false
    decide
  have hheaders : Entry.isNamed ["headers".toList] e.headersIn = true := by
    show (["headers".toList].map lower).contains (lower "headers".toList) = true
    decide
  unfold literal
  by_cases hnil : e.members = []
  · simp only [hnil, if_true, List.find?_cons, hdata, List.find?_nil]
  · simp only [hnil, if_false, List.find?_cons, hheaders]

theorem find?_data (e : Test) :
    e.literal.entries.find? (Entry.isNamed ["data".toList, "body".toList]) = some e.dataIn := by
  have hdata : Entry.isNamed ["data".toList, "body".toList] e.dataIn = true := by
    show (["data".toList, "body".toList].map lower).contains (lower "data".toList) = true
    decide
  have hheaders : Entry.isNamed ["data".toList, "body".toList] e.headersIn = false := by
    show (["data".toList, "body".toList].map lower).contains (lower "headers".toList) = false
    decide
  unfold literal
  by_cases hnil : e.members = []
  · simp only [hnil, if_true, List.find?_cons, hdata]
  · simp only [hnil, if_false, List.find?_cons, hheaders, hdata]

theorem headersBlock_options (e : Test) :
    Options.headersBlock e.options = if e.members = [] then [] else e.headersBlock := by
  have hfind := e.find?_headers
  rw [← e.render_literal]
  split at hfind
  · next hnil =>
    rw [headersBlock_eq_nil e.plain_literal hfind, if_pos hnil]
  · next hnil =>
    rw [if_neg hnil]
    have hvalue : e.headersIn.value =
        '{' :: (' ' :: (join [',', ' '] e.members ++ [' ']) ++ ['}']) := by
      simp [headersIn, headersBlock]
    exact headersBlock_eq e.plain_literal hfind hvalue e.balanced_inHeaders

theorem body?_options (e : Test) :
    Options.body? e.options = some (join [' '] (words e.body)) := by
  rw [← e.render_literal]
  exact body?_of_find e.plain_literal e.find?_data (by simp [dataIn, body])

def blockStart : Text := ['{', ' ']
def blockEnding : Text := [' ', '}']
def colonSpace : Text := [':', ' ']
def typeName : Text := "Content-Type".toList
def tokenStart : Text := "Authorization: ".toList
def bearerSpace : Text := "Bearer ".toList

theorem contentTypeKey_eq :
    contentTypeKey = '\'' :: (typeName ++ '\'' :: (colonSpace ++ ['\''])) := by decide

theorem tokenKey_eq : tokenKey = tokenStart ++ '\'' :: bearerSpace := by decide

/-- A content type is not sought without its name. -/
theorem quiet_contentType {k : Text} (hk : Plain k) : Quiet contentTypePattern none
    (blockStart ++ (tokenKey ++ (k ++ ['\'']) ++ blockEnding)) [] := by
  have hfront : ∀ c ∈ blockStart ++ tokenStart, isQuote c = false := by decide
  have hvalue : ∀ c ∈ bearerSpace ++ k, isQuote c = false := by
    have hfixed : ∀ c ∈ bearerSpace, isQuote c = false := by decide
    intro c hc
    rcases List.mem_append.1 hc with hc | hc
    · exact hfixed c hc
    · exact (hk c hc).1
  have hending : ∀ c ∈ blockEnding, isQuote c = false := by decide
  apply quiet_of_no_match
  rintro x c y ⟨value, rest⟩ hsplit hmatch
  obtain ⟨_, q, word, bl, bl', q', q'', hq, hword, _, _, _, _, _, _, ht⟩ :=
    contentTypePattern_eq_some.1 hmatch
  have hquote : isQuote q = true := by rcases hq with rfl | rfl <;> decide
  have hfirst : ∃ d w, word = d :: w ∧ sameLetter 'c' d = true := by
    cases hword with
    | cons hd _ => exact ⟨_, _, rfl, hd⟩
  obtain ⟨d, w, rfl, hd⟩ := hfirst
  rw [List.append_nil] at ht
  rw [ht, tokenKey_eq] at hsplit
  have hsplit' : (blockStart ++ tokenStart) ++ '\'' :: ((bearerSpace ++ k) ++ '\'' :: blockEnding) =
      x ++ q :: (d :: w ++ q :: (bl ++ ':' :: (bl' ++ q' :: (value ++ q'' :: rest)))) := by
    rw [← hsplit]
    simp
  rcases split_first hfront hquote hsplit' with ⟨_, _, hrest⟩ | ⟨u, _, hrest⟩
  · obtain ⟨rfl, _⟩ := List.cons.inj hrest
    revert hd
    decide
  · rcases split_first hvalue hquote hrest with ⟨_, _, hrest'⟩ | ⟨u', _, hrest'⟩
    · obtain ⟨rfl, _⟩ := List.cons.inj hrest'
      revert hd
      decide
    · have := hending q (by rw [hrest']; simp)
      rw [hquote] at this
      cases this

/-- A bearer is not sought without an authorisation, whatever the content type is. -/
theorem quiet_bearer {c : Text} (hc : Plain c) : Quiet bearerPattern none
    (blockStart ++ (contentTypeKey ++ (c ++ ['\'']) ++ blockEnding)) [] := by
  have hfront : ∀ d ∈ blockStart, isQuote d = false := by decide
  have hname : ∀ d ∈ typeName, isQuote d = false := by decide
  have hcolon : ∀ d ∈ colonSpace, isQuote d = false := by decide
  have hending : ∀ d ∈ blockEnding, isQuote d = false := by decide
  have hbefore : ∀ d ∈ blockStart ++ '\'' :: (typeName ++ '\'' :: colonSpace),
      sameLetter 'u' d = false := by decide
  apply quiet_of_no_match
  intro x d y r hsplit hmatch
  obtain ⟨_, q, word, bl, bl', q', bl'', word', rest, _, hword, _, _, hquote, hbl'', hword', _, ht⟩ :=
    bearerPattern_isSome.1 (Option.isSome_of_eq_some hmatch)
  obtain ⟨a, ha, hsame⟩ := hword.exists_mem (show 'u' ∈ authorizationName by decide)
  obtain ⟨b, w, hhead, hb⟩ : ∃ b w, word' = b :: w ∧ sameLetter 'b' b = true := by
    cases hword' with
    | cons hb _ => exact ⟨_, _, rfl, hb⟩
  -- The quote of a match is one of the four, with a `u` before it and a `b` behind it.
  have hskip : skipBlanks (bl'' ++ (word' ++ rest)) = b :: (w ++ rest) := by
    rw [skipBlanks_append hbl'', hhead, List.cons_append]
    exact skipBlanks_cons (isBlank_latin (isLatinLetter_of_sameLetter (by decide) hb)) _
  have hsplit' : blockStart ++ '\'' :: (typeName ++ '\'' :: (colonSpace ++ '\'' ::
      (c ++ '\'' :: blockEnding))) =
        (x ++ (q ++ (word ++ (q ++ (bl ++ ':' :: bl'))))) ++ q' :: (bl'' ++ (word' ++ rest)) := by
    rw [List.append_nil] at ht
    rw [ht, contentTypeKey_eq] at hsplit
    simpa using hsplit
  have hmem : a ∈ x ++ (q ++ (word ++ (q ++ (bl ++ ':' :: bl')))) := by simp [ha]
  have hnone : a ∉ blockStart ++ '\'' :: (typeName ++ '\'' :: colonSpace) := by
    intro hmem
    rw [hbefore a hmem] at hsame
    cases hsame
  have hbehind {u : Text} (hu : skipBlanks u = b :: (w ++ rest)) {e : Char} {v : Text}
      (he : skipBlanks u = e :: v) (hbe : sameLetter 'b' e = false) : False := by
    rw [he] at hu
    rw [(List.cons.inj hu).1, hb] at hbe
    cases hbe
  rcases split_first hfront hquote hsplit' with ⟨hx, _, _⟩ | ⟨u₁, hx, hr₁⟩
  · rw [hx] at hmem
    exact hnone (List.mem_append_left _ hmem)
  rcases split_first hname hquote hr₁ with ⟨_, _, htail⟩ | ⟨u₂, rfl, hr₂⟩
  · rw [htail] at hskip
    exact hbehind hskip rfl (by decide)
  rcases split_first hcolon hquote hr₂ with ⟨rfl, _, _⟩ | ⟨u₃, rfl, hr₃⟩
  · rw [hx] at hmem
    exact hnone hmem
  rcases split_first (fun d hd => (hc d hd).1) hquote hr₃ with ⟨_, _, htail⟩ | ⟨u₄, _, hr₄⟩
  · rw [htail] at hskip
    exact hbehind hskip rfl (by decide)
  · have := hending q' (by rw [hr₄]; simp)
    rw [hquote] at this
    cases this

theorem contentTypePattern_member {c : Text} (hc : Plain c) (hne : c ≠ []) (w : Text) :
    contentTypePattern (some ' ') (contentTypeKey ++ (c ++ '\'' :: w)) = some (c, w) := by
  have hword : SameLetters contentTypeName typeName := by
    unfold SameLetters
    decide
  have hblank : AllBlank [' '] := by decide
  apply contentTypePattern_eq_some.2
  refine ⟨by decide, '\'', typeName, [], [' '], '\'', '\'', .inl rfl, hword, allBlank_nil, hblank,
    by decide, by decide, hne, fun d hd => (hc d hd).1, ?_⟩
  rw [contentTypeKey_eq, colonSpace]
  simp

theorem bearerPattern_member (w : Text) :
    bearerPattern (some ' ') (tokenKey ++ w) = some ((), ' ' :: w) := rfl

/-- With a content type among them the headers begin with it. -/
theorem headersBlock_of_contentType {e : Test} {c : Text} (h : e.contentType = some c) :
    e.members ≠ [] ∧ ∃ w, e.headersBlock = blockStart ++ (contentTypeKey ++ (c ++ '\'' :: w)) := by
  unfold headersBlock members
  rw [h]
  constructor
  · simp
  · cases e.token with
    | none => exact ⟨blockEnding, by simp [join, blockStart, blockEnding]⟩
    | some k =>
      refine ⟨[',', ' '] ++ (tokenKey ++ (k ++ ['\'']) ++ blockEnding), ?_⟩
      simp [join, blockStart, blockEnding, List.intercalate_cons_cons]

/-- With a token among them the headers end with it. -/
theorem headersBlock_of_token {e : Test} {k : Text} (h : e.token = some k) :
    e.members ≠ [] ∧
      ∃ u, e.headersBlock = (u ++ [' ']) ++ (tokenKey ++ (k ++ '\'' :: blockEnding)) := by
  unfold headersBlock members
  rw [h]
  constructor
  · simp
  · cases e.contentType with
    | none => exact ⟨['{'], by simp [join, blockEnding]⟩
    | some c =>
      refine ⟨blockStart ++ (contentTypeKey ++ (c ++ ['\'', ','])), ?_⟩
      simp [join, blockStart, blockEnding, List.intercalate_cons_cons]

theorem quiet_blockStart (v : Text) : Quiet contentTypePattern none blockStart v :=
  quiet_of_first contentTypePattern_start (by decide) none v

theorem contentType_options (e : Test) :
    (fields e.options).contentType = e.contentType.map trim := by
  have hfirst : (fields e.options).contentType =
      (first? contentTypePattern none (Options.headersBlock e.options)).map trim := by
    rw [← find?_value, Option.map_map]
    rfl
  rw [hfirst, headersBlock_options]
  cases hc : e.contentType with
  | some c =>
    obtain ⟨hne, w, hblock⟩ := headersBlock_of_contentType hc
    obtain ⟨hplain, _, hblank⟩ := e.plain_contentType c hc
    have hnil : c ≠ [] := by
      rintro rfl
      exact hblank allBlank_nil
    have hmatch := contentTypePattern_member hplain hnil w
    rw [if_neg hne, hblock, first?_quiet (quiet_blockStart _)]
    rw [contentTypeKey_eq] at hmatch ⊢
    rw [List.cons_append] at hmatch ⊢
    show Option.map trim (first? contentTypePattern (some ' ') _) = _
    rw [first?, hmatch]
  | none =>
    cases hk : e.token with
    | none =>
      rw [if_pos (by simp [members, hc, hk])]
      rfl
    | some k =>
      have hquiet := quiet_contentType (e.plain_token k hk).1
      have hblock : e.headersBlock = blockStart ++ (tokenKey ++ (k ++ ['\'']) ++ blockEnding) := by
        simp [headersBlock, members, hc, hk, join, blockStart, blockEnding]
      rw [if_neg (headersBlock_of_token hk).1, hblock, ← find?_value, find?_eq_none.2 hquiet]
      rfl

theorem bearer_options (e : Test) : (fields e.options).bearer = e.token.isSome := by
  show (find? bearerPattern (Options.headersBlock e.options)).isSome = e.token.isSome
  rw [headersBlock_options]
  cases hk : e.token with
  | some k =>
    obtain ⟨hne, u, hblock⟩ := headersBlock_of_token hk
    rw [if_neg hne, hblock, Option.isSome_some, Option.isSome_iff_ne_none]
    intro hnone
    obtain ⟨c, t, hcons⟩ : ∃ c t, tokenKey = c :: t := ⟨_, _, rfl⟩
    have hmatch := bearerPattern_member (k ++ '\'' :: blockEnding)
    have := find?_eq_none.1 hnone (u ++ [' ']) c (t ++ (k ++ '\'' :: blockEnding))
      (by rw [hcons]; rfl)
    rw [endOf_snoc, List.append_nil, ← List.cons_append, ← hcons, hmatch] at this
    cases this
  | none =>
    cases hc : e.contentType with
    | none =>
      rw [if_pos (by simp [members, hc, hk])]
      rfl
    | some c =>
      have hquiet := quiet_bearer (e.plain_contentType c hc).1
      have hblock : e.headersBlock =
          blockStart ++ (contentTypeKey ++ (c ++ ['\'']) ++ blockEnding) := by
        simp [headersBlock, members, hc, hk, join, blockStart, blockEnding]
      rw [if_neg (headersBlock_of_contentType hc).1, hblock, find?_eq_none.2 hquiet]
      rfl

theorem fields_options (e : Test) : fields e.options =
    { contentType := e.contentType.map trim, bearer := e.token.isSome,
      body := some (join [' '] (words e.body)) } := by
  rw [← e.contentType_options, ← e.bearer_options, ← e.body?_options]
  rfl

end Test

end EndpointManifest.Script
