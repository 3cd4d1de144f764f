import EndpointManifest.Proofs.Call.Pattern
import EndpointManifest.Proofs.Options.Literal
import EndpointManifest.Proofs.Text.CharClass
import EndpointManifest.Proofs.Text.Search

/-! Where an options text mentions a method. A mention never reaches over the end of an entry, so
the first mention of an object literal is the first mention of one of its entries; but it may stand
anywhere in that entry, and a quoted key is none. -/

namespace EndpointManifest.Call

open Text

theorem methodFieldPattern_eq_some {before : Option Char} {t word rest : Text} :
    methodFieldPattern before t = some (word, rest) ↔
      wordEdge before t = true ∧ ∃ bl bl' q q', AllBlank bl ∧ AllBlank bl' ∧ isQuote q = true ∧
        isQuote q' = true ∧ word ≠ [] ∧ (∀ c ∈ word, isAsciiLetter c = true) ∧
        t = "method".toList ++ (bl ++ ':' :: (bl' ++ (q :: word ++ q' :: rest))) := by
  unfold methodFieldPattern
  rw [guard_bind_eq_some]
  simp only [Option.bind_eq_bind, Option.bind_eq_some_iff, Option.pure_def, Option.some.injEq,
    Prod.exists, Prod.mk.injEq, quote?_eq_some, run?_eq_some, after?_eq_some,
    afterMark?_eq_some (c := ':') (by decide)]
  constructor
  · rintro ⟨hedge, t₁, rfl, t₂, ⟨bl, hbl, rfl⟩, q, _, ⟨hq, hquote⟩, _, _, ⟨hne, hall, _, rfl⟩, q', _,
      ⟨hq', rfl⟩, rfl, rfl⟩
    obtain ⟨bl', hbl', hsplit⟩ := skipBlanks_split t₂
    exact ⟨hedge, bl, bl', q, q', hbl, hbl', hq, hq', hne, hall, by rw [hsplit, hquote]; rfl⟩
  · rintro ⟨hedge, bl, bl', q, q', hbl, hbl', hq, hq', hne, hall, rfl⟩
    refine ⟨hedge, _, rfl, _, ⟨bl, hbl, rfl⟩, q, word ++ q' :: rest, ⟨hq, ?_⟩, word, q' :: rest,
      ⟨hne, hall, ?_, rfl⟩, q', rest, ⟨hq', rfl⟩, rfl, rfl⟩
    · rw [skipBlanks_append hbl', List.cons_append, skipBlanks_cons (isBlank_quote hq)]
    · rintro c ⟨rfl⟩
      rcases isQuote_iff.1 hq' with rfl | rfl | rfl <;> decide

def mention? (t : Text) : Option Text := first? methodFieldPattern none t

theorem fetchMethod?_eq (options : Text) :
    fetchMethod? options = ((mention? options).map fun w => Method.ofName? (upper w)).getD
      (some .get) := by
  rw [fetchMethod?, mention?, ← find?_value]
  cases find? methodFieldPattern options <;> rfl

def mentioning (bl bl' word : Text) (q q' : Char) : Text :=
  "method".toList ++ (bl ++ ':' :: (bl' ++ (q :: word ++ [q'])))

theorem mentioning_eq (bl bl' word : Text) (q q' : Char) : mentioning bl bl' word q q' =
    "method".toList ++ (bl ++ ':' :: (bl' ++ (q :: word ++ [q']))) := rfl

theorem not_mem_mentioning {bl bl' word : Text} {q q' c : Char} (hbl : AllBlank bl)
    (hbl' : AllBlank bl') (hq : isQuote q = true) (hq' : isQuote q' = true)
    (hword : ∀ d ∈ word, isAsciiLetter d = true) (hc : c = ',' ∨ c = '}') :
    c ∉ mentioning bl bl' word q q' := by
  have hclass : c ∉ "method".toList ∧ isBlank c = false ∧ c ≠ ':' ∧ isQuote c = false ∧
      isAsciiLetter c = false := by
    rcases hc with rfl | rfl <;> decide
  obtain ⟨hmethod, hblank, hcolon, hquote, hletter⟩ := hclass
  simp only [mentioning_eq, List.mem_append, List.mem_cons, List.not_mem_nil, or_false, not_or]
  refine ⟨hmethod, fun h => ?_, hcolon, fun h => ?_, ⟨fun h => ?_, fun h => ?_⟩, fun h => ?_⟩
  · simp [hbl c h] at hblank
  · simp [hbl' c h] at hblank
  · simp [h, hq] at hquote
  · simp [hword c h] at hletter
  · simp [h, hq'] at hquote

theorem getLast?_mentioning (bl bl' word : Text) (q q' : Char) :
    (mentioning bl bl' word q q').getLast? = some q' := by
  have hend (start : Text) :
      (start ++ (bl ++ ':' :: (bl' ++ (q :: word ++ [q'])))).getLast? = some q' := by
    have hsnoc : start ++ (bl ++ ':' :: (bl' ++ (q :: word ++ [q']))) =
        (start ++ (bl ++ ':' :: (bl' ++ q :: word))) ++ [q'] := by simp
    rw [hsnoc, List.getLast?_concat]
  exact hend "method".toList

/-- A mention that begins before the end of an entry ends there too. -/
theorem methodFieldPattern_append {b : Option Char} {c : Char} {y v : Text}
    (hv : Literal.Closes v) :
    (methodFieldPattern b (c :: y ++ v)).map (·.1) = (methodFieldPattern b (c :: y)).map (·.1) := by
  have hsome (w : Text) : (∃ rest, methodFieldPattern b (c :: y ++ v) = some (w, rest)) ↔
      ∃ rest, methodFieldPattern b (c :: y) = some (w, rest) := by
    simp only [methodFieldPattern_eq_some]
    constructor
    · rintro ⟨rest, hedge, bl, bl', q, q', hbl, hbl', hq, hq', hne, hword, ht⟩
      have hmem := fun d => not_mem_mentioning (c := d) hbl hbl' hq hq' hword
      have hsplit : c :: y ++ v = mentioning bl bl' w q q' ++ rest := by
        rw [ht]
        simp [mentioning_eq]
      obtain ⟨a, ha, -⟩ := hv.split hsplit (getLast?_mentioning bl bl' w q q') (isBlank_quote hq') hmem
      exact ⟨a, hedge, bl, bl', q, q', hbl, hbl', hq, hq', hne, hword, by simp [ha, mentioning_eq]⟩
    · rintro ⟨rest, hedge, bl, bl', q, q', hbl, hbl', hq, hq', hne, hword, ht⟩
      exact ⟨rest ++ v, hedge, bl, bl', q, q', hbl, hbl', hq, hq', hne, hword, by simp [ht]⟩
  refine Option.ext fun w => ?_
  simpa [Option.map_eq_some_iff] using hsome w

theorem methodFieldPattern_of_ne {b : Option Char} {c : Char} {t : Text} (h : c ≠ 'm') :
    methodFieldPattern b (c :: t) = none := by
  refine Option.eq_none_iff_forall_ne_some.2 fun r hr => ?_
  obtain ⟨_, _, _, _, _, _, _, _, _, _, _, ht⟩ := methodFieldPattern_eq_some.1 hr
  exact h (List.cons.inj ht).1

theorem first?_of_not_word {c : Char} (hc : isWord c = false) (t : Text) :
    first? methodFieldPattern (some c) t = mention? t := by
  cases t with
  | nil => rfl
  | cons d t =>
    have hedge : wordEdge (some c) (d :: t) = wordEdge none (d :: t) := by simp [wordEdge, hc]
    have hp : methodFieldPattern (some c) (d :: t) = methodFieldPattern none (d :: t) := by
      simp only [methodFieldPattern, hedge]
    rw [mention?, first?, first?, hp]

theorem mention?_cons {c : Char} (hm : c ≠ 'm') (hc : isWord c = false) (t : Text) :
    mention? (c :: t) = mention? t := by
  rw [mention?, first?, methodFieldPattern_of_ne hm]
  exact first?_of_not_word hc t

theorem mention?_blanks {bl : Text} (h : AllBlank bl) (t : Text) :
    mention? (bl ++ t) = mention? t := by
  induction bl with
  | nil => rfl
  | cons c bl ih =>
    have hc : isBlank c = true := h c (by simp)
    have hm : c ≠ 'm' := by
      rintro rfl
      revert hc
      decide
    rw [List.cons_append, mention?_cons hm (isWord_of_isBlank hc)]
    exact ih fun d hd => h d (by simp [hd])

theorem mention?_append {u v : Text} (hv : Literal.Closes v) :
    mention? (u ++ v) = (mention? u).or (mention? v) := by
  have hfirst : first? methodFieldPattern (endOf none u) v = mention? v := by
    obtain ⟨bl, c, rest, hbl, hc, rfl⟩ := hv
    have hstart : ∃ d v', bl ++ c :: rest = d :: v' ∧ d ≠ 'm' := by
      cases bl with
      | nil => exact ⟨c, rest, rfl, by rintro rfl; simp at hc⟩
      | cons d bl =>
        refine ⟨d, bl ++ c :: rest, rfl, ?_⟩
        rintro rfl
        exact absurd (hbl 'm' (by simp)) (by decide)
    obtain ⟨d, v', hv', hd⟩ := hstart
    rw [hv', mention?, first?, first?, methodFieldPattern_of_ne hd, methodFieldPattern_of_ne hd]
  rw [mention?, first?_append fun x c y _ => methodFieldPattern_append hv, hfirst]
  rfl

def mentionIn? (e : Entry) : Option Text := mention? e.text

theorem mention?_renderEntries {ending : Text} (hending : Literal.Closes ending)
    (hnone : mention? ending = none) (es : List Entry) :
    mention? (Literal.renderEntries ending es) = es.findSome? mentionIn? := by
  induction es with
  | nil => exact hnone
  | cons e es ih =>
    have htail : mention? (Literal.behind ending es) = es.findSome? mentionIn? := by
      cases es with
      | nil => exact hnone
      | cons e' es => rw [Literal.behind, mention?_cons (by decide) (by decide), ih]
    have hclose := Literal.closes_append e.back.blank (Literal.closes_behind hending es)
    rw [Literal.renderEntries_behind, Entry.padded, List.append_assoc, List.append_assoc,
      mention?_blanks e.front.blank, mention?_append hclose, mention?_blanks e.back.blank, htail,
      List.findSome?_cons, mentionIn?]
    cases mention? e.text <;> rfl

theorem mention?_close (o : Literal) : mention? o.close = none := by
  have hend : mention? (o.ending.text ++ ['}']) = none := by
    rw [mention?_blanks o.ending.blank, mention?_cons (by decide) (by decide)]
    rfl
  rw [Literal.close]
  split
  · exact (mention?_cons (by decide) (by decide) _).trans hend
  · exact hend

/-- The first mention of an object literal is the first one in its entries. -/
theorem mention?_render (o : Literal) : mention? o.render = o.entries.findSome? mentionIn? := by
  rw [Literal.render, mention?_cons (by decide) (by decide)]
  exact mention?_renderEntries o.closes_close (mention?_close o) o.entries

def IsWordOf (word : Text) (e : Entry) : Prop :=
  word ≠ [] ∧ (∀ c ∈ word, isAsciiLetter c = true) ∧
    ∃ q, isQuote q = true ∧ e.value = q :: word ++ [q]

def methodMember? (o : Literal) : Option Entry :=
  o.entries.find? (·.key.name = "method".toList)

/-- What an object literal says of its method: the word of its `method` entry, or GET when it has no
such entry. A value that is no word in quotes says nothing. -/
inductive Declares (o : Literal) : Option Method → Prop where
  | absent (h : methodMember? o = none) : Declares o (some .get)
  | word {e : Entry} {word : Text} (h : methodMember? o = some e) (hword : IsWordOf word e) :
      Declares o (Method.ofName? (upper word))

theorem mentionIn?_bare {e : Entry} {word : Text} (hkey : e.key = .bare "method".toList)
    (hword : IsWordOf word e) : mentionIn? e = some word := by
  obtain ⟨hne, hletters, q, hq, hvalue⟩ := hword
  have hmatch : methodFieldPattern none e.text = some (word, []) := by
    refine methodFieldPattern_eq_some.2 ⟨?_, e.beforeColon.text, e.afterColon.text, q, q,
      e.beforeColon.blank, e.afterColon.blank, hq, hq, hne, hletters, ?_⟩
    · rw [Entry.text, hkey]
      rfl
    · rw [Entry.text, hkey, hvalue]
      rfl
  rw [mentionIn?, mention?]
  have htext : ∃ t, e.text = 'm' :: t := ⟨_, by rw [Entry.text, hkey]; rfl⟩
  obtain ⟨t, ht⟩ := htext
  rw [ht] at hmatch ⊢
  rw [first?, hmatch]

theorem find?_filterMap {g : Found Text → Option Call} {l : List (Found Text)} {f : Found Text}
    (hl : l.Pairwise (·.start < ·.start)) (hg : ∀ f call, g f = some call → call.offset = f.start)
    (hf : f ∈ l) : (l.filterMap g).find? (·.offset = f.start) = g f := by
  induction hl with
  | nil => simp at hf
  | @cons f' l hlater _ ih =>
    rw [List.filterMap_cons]
    rcases List.mem_cons.1 hf with rfl | hf
    · cases hgf : g f with
      | some call => simp [hg f call hgf]
      | none =>
        refine List.find?_eq_none.2 fun call hcall => ?_
        obtain ⟨f', hf', hgf'⟩ := List.mem_filterMap.1 hcall
        have hlt := hlater f' hf'
        have hoffset := hg f' call hgf'
        simp only [decide_eq_true_eq]
        omega
    · have hlt := hlater f hf
      cases hgf : g f' with
      | none => exact ih hf
      | some call =>
        have hoffset := hg f' call hgf
        rw [List.find?_cons_of_neg (by simp only [decide_eq_true_eq]; omega)]
        exact ih hf

theorem reported_method {t : Text} {f : Found Text} (hf : f ∈ findAll fetchPattern t) :
    ((fetchCalls t).find? (·.offset = f.start)).map (·.method) =
      fetchMethod? (bound t f.start).2.2 := by
  rw [fetchCalls, find?_filterMap (findAll_pairwise fetchPattern t) ?_ hf]
  · simp only [Option.map_map]
    cases fetchMethod? (bound t f.start).2.2 <;> rfl
  · intro f call hcall
    obtain ⟨m, _, rfl⟩ := Option.map_eq_some_iff.1 hcall
    rfl

theorem findSome?_of_bare {o : Literal} {front back : List Entry} {e : Entry} {word : Text}
    (ho : o.entries = front ++ e :: back) (hkey : e.key = .bare "method".toList)
    (hfront : ∀ e' ∈ front, mentionIn? e' = none) (hword : IsWordOf word e) :
    o.entries.findSome? mentionIn? = some word := by
  have hnone : front.findSome? mentionIn? = none := List.findSome?_eq_none_iff.2 hfront
  rw [ho, List.findSome?_append, hnone, List.findSome?_cons, mentionIn?_bare hkey hword]
  rfl

/-- The method of a `fetch` whose options are an object literal is the one that the first mention in
its entries names, wherever in an entry that stands, and GET without any. So it is what the literal
says of its method exactly when the first mention happens to say the same, as it does when the
`method` entry has a bare key and no entry before it mentions one. -/
theorem fetch_method_iff {t : Text} {f : Found Text} (hf : f ∈ findAll fetchPattern t)
    {o : Literal} (ho : (bound t f.start).2.2 = o.render) {declared : Option Method}
    (hd : Declares o declared) :
    (((fetchCalls t).find? (·.offset = f.start)).map (·.method) = declared ↔
      ((o.entries.findSome? mentionIn?).map fun word => Method.ofName? (upper word)).getD
        (some .get) = declared) ∧
    ∀ front e back, o.entries = front ++ e :: back → e.key = .bare "method".toList →
      (∀ e' ∈ front, e'.key.name ≠ "method".toList ∧ mentionIn? e' = none) →
      ((fetchCalls t).find? (·.offset = f.start)).map (·.method) = declared := by
  have hreported : ((fetchCalls t).find? (·.offset = f.start)).map (·.method) =
      ((o.entries.findSome? mentionIn?).map fun word => Method.ofName? (upper word)).getD
        (some .get) := by
    rw [reported_method hf, ho, fetchMethod?_eq, mention?_render]
  refine ⟨by rw [hreported], fun front e back hentries hkey hfront => ?_⟩
  have hentry : methodMember? o = some e := by
    have hname : e.key.name = "method".toList := by rw [hkey]; rfl
    have hnone : front.find? (·.key.name = "method".toList) = none :=
      List.find?_eq_none.2 fun e' he' h => (hfront e' he').1 (of_decide_eq_true h)
    rw [methodMember?, hentries, List.find?_append, hnone, List.find?_cons]
    simp only [hname, decide_true, Option.none_or]
  rw [hreported]
  cases hd with
  | absent h => rw [h] at hentry; cases hentry
  | word h hword =>
    obtain rfl := Option.some.inj (h.symm.trans hentry)
    rw [findSome?_of_bare hentries hkey (fun e' he' => (hfront e' he').2) hword]
    rfl

/-- A bare key and nothing before it. -/
theorem fetch_method_post :
    ((fetchCalls "fetch('/a', \x7bmethod: 'POST'\x7d)".toList).find? (·.offset = 0)).map
      (·.method) = some .post := by
  have hfind : findAll fetchPattern "fetch('/a', \x7bmethod: 'POST'\x7d)".toList =
      [⟨0, "/a".toList⟩] := by
    rfl
  let e : Entry := ⟨⟨[], allBlank_nil⟩, .bare "method".toList, ⟨[], allBlank_nil⟩,
    ⟨[' '], by decide⟩, "'POST'".toList, ⟨[], allBlank_nil⟩, ⟨'m', "ethod".toList, by decide⟩,
    .literal (by decide)⟩
  let o : Literal := ⟨[e], false, ⟨[], allBlank_nil⟩, by decide⟩
  have hword : IsWordOf "POST".toList e := ⟨by decide, by decide, '\'', by decide, rfl⟩
  have hd : Declares o (some .post) := .word (e := e) rfl hword
  have h := fetch_method_iff (f := ⟨0, "/a".toList⟩) (by rw [hfind]; exact .head _) (o := o) rfl hd
  exact h.2 [] e [] rfl rfl (List.forall_mem_nil _)

/-- A payload that mentions a method. -/
theorem fetch_method_nested :
    (fetchCalls "fetch('/a', \x7b data: \x7b method: 'DELETE' \x7d \x7d)".toList).map (·.method) =
      [.delete] := by
  decide +kernel

end EndpointManifest.Call
