import EndpointManifest.Proofs.Call.Bound
import EndpointManifest.Proofs.Call.Head
import EndpointManifest.Proofs.Text.Words

/-! A call is settled by the text from its object to its closing parenthesis: the method by what
stands before the first parenthesis, the URL and the options by what stands inside. -/

namespace EndpointManifest

open Text

namespace Text

/-- A word between blanks is the only one. -/
theorem word_unique {bl w bl' u v u' : Text} (hbl : AllBlank bl) (hbl' : AllBlank bl')
    (hu : AllBlank u) (hu' : AllBlank u') (hw : w ≠ [] ∧ ∀ c ∈ w, isBlank c = false)
    (hv : v ≠ [] ∧ ∀ c ∈ v, isBlank c = false) (h : bl ++ (w ++ bl') = u ++ (v ++ u')) : w = v := by
  have hwords := congrArg words h
  rw [words_blank_append hbl, words_blank_append hu, words_append_allBlank hbl',
    words_append_allBlank hu', words_of_not_blank hw.1 hw.2, words_of_not_blank hv.1 hv.2] at hwords
  exact (List.cons.inj hwords).1

/-- Two words that a text starts with, each in any letter case, do not differ where both have
letters. -/
theorem not_clash_same {s t s' t' u u' : Text} (h : SameLetters s t) (h' : SameLetters s' t')
    (heq : t ++ u = t' ++ u') : clash s s' = false := by
  induction h generalizing s' t' with
  | nil => rfl
  | @cons a b _ _ hab _ ih =>
    cases h' with
    | nil => rfl
    | @cons c d _ _ hcd htail =>
      obtain ⟨rfl, hrest⟩ := List.cons.inj heq
      have hsame : sameLetter a c = true := by
        simp only [sameLetter, beq_iff_eq] at hab hcd ⊢
        exact hab.trans hcd.symm
      simp only [clash, List.zip_cons_cons, List.any_cons, hsame, Bool.not_true, Bool.false_or]
      exact ih htail hrest

end Text

namespace Call

def Named (clients : List Text) : Prop := ∀ client ∈ clients, ∀ c ∈ client, isNameChar c = true

theorem Named.not_mem {clients : List Text} (hc : Named clients) {object : Text}
    (h : IsClient clients object) : '(' ∉ object ∧ '.' ∉ object := by
  have hmark : ∀ d : Char, d.toNat ≤ 0x7A → isAsciiLetter d = false → isNameChar d = false →
      isLatinNameStart d = false → d ∉ object := by
    intro d hd hletter hname hstart hmem
    rcases h with ⟨client, hclient, hsame⟩ | ⟨_, c, tail, rfl, hfirst, htail⟩
    · obtain ⟨a, ha, had⟩ := hsame.symm.exists_mem hmem
      obtain rfl := eq_of_sameLetter_mark hd hletter had
      rw [hc client hclient a ha] at hname
      cases hname
    · rcases List.mem_cons.1 hmem with rfl | hmem
      · rw [hfirst] at hstart
        cases hstart
      · rw [htail d hmem] at hname
        cases hname
  exact ⟨hmark _ (by decide) (by decide) (by decide) (by decide),
    hmark _ (by decide) (by decide) (by decide) (by decide)⟩

/-- What the text before the parenthesis of a call says of its method, given its options. -/
inductive Head (options : Text) (method : Method) : Text → Prop
  | verb {object gap word back : Text} (hobject : '.' ∉ object) (hgap : AllBlank gap)
      (hword : SameLetters method.verb word) (hback : AllBlank back) :
      Head options method (object ++ '.' :: (gap ++ (word ++ back)))
  | fetch {front word back : Text} (hword : SameLetters "fetch".toList word)
      (hback : AllBlank back) (hmethod : fetchMethod? options = some method) :
      Head options method (front ++ (word ++ back))

theorem word_not_blank {s word : Text} (hs : ∀ c ∈ s, isAsciiLetter c = true) (hne : s ≠ [])
    (h : SameLetters s word) : word ≠ [] ∧ ∀ c ∈ word, isBlank c = false := by
  constructor
  · rintro rfl
    exact hne (List.forall₂_nil_right_iff.1 h)
  · exact fun c hc => isBlank_latin (h.latin hs c hc)

theorem verb_not_blank {method : Method} {word : Text} (h : SameLetters method.verb word) :
    word ≠ [] ∧ ∀ c ∈ word, isBlank c = false :=
  word_not_blank (verb_letters method) (by cases method <;> decide) h

/-- The last word of a head is the same however the head is split. -/
theorem last_word {front word back front' word' back' : Text}
    (hback : AllBlank back) (hback' : AllBlank back')
    (hword : word ≠ [] ∧ ∀ c ∈ word, isBlank c = false)
    (hword' : word' ≠ [] ∧ ∀ c ∈ word', isBlank c = false)
    (h : front ++ (word ++ back) = front' ++ (word' ++ back')) :
    word.reverse ++ front.reverse = word'.reverse ++ front'.reverse := by
  have hreverse := congrArg (fun t => skipBlanks t.reverse) h
  simp only [List.reverse_append, List.append_assoc] at hreverse
  rw [skipBlanks_append (fun c hc => hback c (List.mem_reverse.1 hc)),
    skipBlanks_append (fun c hc => hback' c (List.mem_reverse.1 hc))] at hreverse
  have hskip : ∀ {word front : Text}, word ≠ [] ∧ (∀ c ∈ word, isBlank c = false) →
      skipBlanks (word.reverse ++ front) = word.reverse ++ front := by
    rintro word front ⟨hne, hall⟩
    obtain ⟨c, t, hct⟩ := List.exists_cons_of_ne_nil (List.reverse_ne_nil_iff.2 hne)
    have hc : isBlank c = false := hall c (List.mem_reverse.1 (by simp [hct]))
    rw [hct, List.cons_append, skipBlanks_cons hc]
  rw [hskip hword, hskip hword'] at hreverse
  exact hreverse

theorem fetch_not_blank {word : Text} (h : SameLetters "fetch".toList word) :
    word ≠ [] ∧ ∀ c ∈ word, isBlank c = false :=
  word_not_blank (by decide) (by decide) h

/-- No text ends both in a verb and in `fetch`, since no verb ends as `fetch` does. -/
theorem verb_ne_fetch {m : Method} {front word back front' word' back' : Text}
    (hword : SameLetters m.verb word) (hback : AllBlank back)
    (hword' : SameLetters "fetch".toList word') (hback' : AllBlank back') :
    front ++ (word ++ back) ≠ front' ++ (word' ++ back') := by
  intro heq
  have hlast := last_word hback hback' (verb_not_blank hword) (fetch_not_blank hword') heq
  have hnot := not_clash_same (List.rel_reverse hword) (List.rel_reverse hword') hlast
  cases m <;> exact absurd hnot (by decide)

/-- One head and one set of options have one method. -/
theorem Head.unique {options head : Text} {m m' : Method} (h : Head options m head)
    (h' : Head options m' head) : m = m' := by
  generalize hhead : head = head' at h'
  cases h with
  | verb hobject hgap hword hback =>
    cases h' with
    | verb hobject' hgap' hword' hback' =>
      obtain ⟨_, hrest⟩ := split_unique hobject hobject' hhead
      have heq := word_unique hgap hback hgap' hback' (verb_not_blank hword) (verb_not_blank hword') hrest
      have hname : m.name = m'.name := by
        rw [← upper_of_verb hword, ← upper_of_verb hword', heq]
      revert hname
      cases m <;> cases m' <;> decide
    | fetch hword' hback' hmethod' =>
      rw [← List.cons_append, ← List.append_assoc] at hhead
      exact absurd hhead (verb_ne_fetch hword hback hword' hback')
  | fetch hword hback hmethod =>
    cases h' with
    | @verb object' _ _ _ hobject' hgap' hword' hback' =>
      rw [← List.cons_append, ← List.append_assoc object'] at hhead
      exact absurd hhead.symm (verb_ne_fetch hword' hback' hword hback)
    | fetch hword' hback' hmethod' => exact Option.some.inj (hmethod.symm.trans hmethod')

/-- Where a call stands in a text: a head without parentheses, its own parenthesis, the URL. -/
structure Located (t : Text) (call : Call) (head body : Text) : Prop where
  split : t.drop call.offset = head ++ '(' :: body
  no_paren : '(' ∉ head
  literal : ∃ rest, plainLiteral? (skipBlanks body) = some (call.url, rest)
  bounds : bound t call.offset = (call.openIndex, call.closeIndex, call.options)
  head : Head call.options call.method head

theorem Located.unique {t head head' body body' : Text} {call call' : Call}
    (h : Located t call head body) (h' : Located t call' head' body')
    (hoffset : call.offset = call'.offset) : call = call' := by
  have hsplit := h.split
  rw [hoffset, h'.split] at hsplit
  obtain ⟨rfl, rfl⟩ := split_unique h'.no_paren h.no_paren hsplit
  have hbounds := h.bounds
  rw [hoffset, h'.bounds] at hbounds
  obtain ⟨hopen, hrest⟩ := Prod.mk.inj hbounds
  obtain ⟨hclose, hoptions⟩ := Prod.mk.inj hrest
  have hmethod : call.method = call'.method := by
    have hhead' := h'.head
    rw [hoptions] at hhead'
    exact h.head.unique hhead'
  have hurl : call.url = call'.url := by
    obtain ⟨rest, hliteral⟩ := h.literal
    obtain ⟨rest', hliteral'⟩ := h'.literal
    exact (Prod.mk.inj (Option.some.inj (hliteral.symm.trans hliteral'))).1
  cases call
  cases call'
  simp_all

theorem urlArgument?_split {t url rest : Text} (h : urlArgument? t = some (url, rest)) :
    ∃ back body, AllBlank back ∧ t = back ++ '(' :: body ∧
      plainLiteral? (skipBlanks body) = some (url, rest) := by
  obtain ⟨body, hbody, hliteral⟩ := Option.bind_eq_some_iff.1 h
  obtain ⟨back, hback, rfl⟩ := (afterMark?_eq_some (by decide)).1 hbody
  exact ⟨back, body, hback, rfl, hliteral⟩

structure Opened (v url after head body : Text) : Prop where
  split : v = head ++ '(' :: body
  no_paren : '(' ∉ head
  literal : plainLiteral? (skipBlanks body) = some (url, after)

theorem opened_of_methodPattern {clients : List Text} (hc : Named clients) {before : Option Char}
    {v url after : Text} {m : Method}
    (h : methodPattern clients before v = some ((m, url), after)) :
    ∃ object gap word back body, '.' ∉ object ∧ AllBlank gap ∧ SameLetters m.verb word ∧
      AllBlank back ∧ Opened v url after (object ++ '.' :: (gap ++ (word ++ back))) body := by
  obtain ⟨_, object, t, hclient, rfl, hcall⟩ := methodPattern_some h
  obtain ⟨bl, gap, word, t', hbl, hgap, hword, rfl, harg⟩ := verbCall?_some hcall
  obtain ⟨back, body, hback, rfl, hliteral⟩ := urlArgument?_split harg
  obtain ⟨hparen, hpoint⟩ := hc.not_mem hclient
  have hobject : '.' ∉ object ++ bl := by
    simp only [List.mem_append, not_or]
    exact ⟨hpoint, not_mem_blanks hbl (by decide)⟩
  refine ⟨object ++ bl, gap, word, back, body, hobject, hgap, hword, hback, ?_, ?_, hliteral⟩
  · simp
  · simp only [List.mem_append, List.mem_cons, not_or]
    exact ⟨⟨hparen, not_mem_blanks hbl (by decide)⟩, by decide, not_mem_blanks hgap (by decide),
      not_mem_latin (hword.latin (verb_letters _)), not_mem_blanks hback (by decide)⟩

theorem opened_of_fetchPattern {before : Option Char} {v url after : Text}
    (h : fetchPattern before v = some (url, after)) :
    ∃ object word back body, SameLetters "fetch".toList word ∧ AllBlank back ∧
      Opened v url after (object ++ (word ++ back)) body := by
  obtain ⟨_, object, t, rfl, hobject, hfetch⟩ := fetchPattern_some h
  obtain ⟨word, t', hword, rfl, harg⟩ := fetchCall?_some hfetch
  obtain ⟨back, body, hback, rfl, hliteral⟩ := urlArgument?_split harg
  refine ⟨object, word, back, body, hword, hback, ?_, ?_, hliteral⟩
  · simp
  · simp only [List.mem_append, not_or]
    exact ⟨not_mem_fetchObject hobject, not_mem_latin (hword.latin (by decide)),
      not_mem_blanks hback (by decide)⟩

theorem located_of_methodCalls {clients : List Text} (hc : Named clients) {t : Text} {call : Call}
    (h : call ∈ methodCalls t clients) : ∃ head body, Located t call head body := by
  obtain ⟨f, hf, rfl⟩ := List.mem_map.1 h
  obtain ⟨u, v, after, rfl, hstart, hmatch⟩ := match_of_mem_findAll hf
  obtain ⟨object, gap, word, back, body, hobject, hgap, hword, hback, hopened⟩ :=
    opened_of_methodPattern hc hmatch
  refine ⟨_, body, ?_, hopened.no_paren, ⟨after, hopened.literal⟩, rfl,
    .verb hobject hgap hword hback⟩
  rw [hstart, List.drop_left, hopened.split]

theorem located_of_fetchCalls {t : Text} {call : Call} (h : call ∈ fetchCalls t) :
    ∃ head body, Located t call head body := by
  obtain ⟨f, hf, hcall⟩ := List.mem_filterMap.1 h
  obtain ⟨m, hm, rfl⟩ := Option.map_eq_some_iff.1 hcall
  obtain ⟨u, v, after, rfl, hstart, hmatch⟩ := match_of_mem_findAll hf
  obtain ⟨object, word, back, body, hword, hback, hopened⟩ := opened_of_fetchPattern hmatch
  refine ⟨_, body, ?_, hopened.no_paren, ⟨after, hopened.literal⟩, rfl, .fetch hword hback hm⟩
  rw [hstart, List.drop_left, hopened.split]

theorem located_of_findCalls {clients : List Text} (hc : Named clients) {t : Text} {call : Call}
    (h : call ∈ findCalls t clients) : ∃ head body, Located t call head body := by
  rw [findCalls, List.mem_mergeSort, List.mem_append] at h
  exact h.elim (located_of_methodCalls hc) located_of_fetchCalls

theorem drop_openIndex {t head body : Text} {offset : Nat} (h : t.drop offset = head ++ '(' :: body) :
    t.drop (offset + head.length) = '(' :: body := by
  rw [← List.drop_drop, h, List.drop_left]

theorem Located.closed {t head body : Text} {call : Call} {close : Nat}
    (h : Located t call head body) (hclose : call.closeIndex = some close) :
    ∃ inside after, body = inside ++ ')' :: after ∧
      close = call.offset + head.length + 1 + inside.length ∧ call.options = optionsOf inside ∧
      Delimiter.Balanced '(' ')' inside := by
  have hbounds := h.bounds
  have hopen : call.openIndex = call.offset + head.length := by
    have hindex : (bound t call.offset).1 = call.openIndex := congrArg Prod.fst hbounds
    rw [← hindex, bound, h.split, findIdx_paren h.no_paren]
  have hdrop := drop_openIndex h.split
  rw [← hopen] at hdrop
  rw [hclose] at hbounds
  obtain ⟨inside, after, hbody, hend, hoptions, hbalanced⟩ :=
    bound_closed hbounds (by rw [← List.head?_drop, hdrop]; rfl)
  rw [← List.drop_drop, hdrop, List.drop_one, List.tail_cons] at hbody
  exact ⟨inside, after, hbody, by omega, hoptions, hbalanced⟩

end Call
end EndpointManifest
