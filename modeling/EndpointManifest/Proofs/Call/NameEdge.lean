import EndpointManifest.Proofs.Call.Merge
import EndpointManifest.Proofs.Text.CharClass

/-! Where the name of a call begins. A call on a client begins at the edge of an identifier. A
`fetch` begins at the edge of a word, and a dollar sign is part of an identifier and of no word: next
to one, and nowhere else, such a call begins inside an identifier. -/

namespace EndpointManifest

open Text

namespace Text

theorem isWord_of_isLatinNameStart {c : Char} (h : isLatinNameStart c = true) (hc : c ≠ '$') :
    isWord c = true := by
  simp only [isLatinNameStart, Bool.or_eq_true, beq_iff_eq] at h
  rcases h with (h | rfl) | rfl
  · exact isWord_of_isLatinLetter h
  · decide
  · exact absurd rfl hc

theorem endOf_none (u : Text) : endOf none u = u.getLast? := by
  rcases List.eq_nil_or_concat u with rfl | ⟨u, c, rfl⟩
  · rfl
  · rw [List.concat_eq_append, endOf_snoc, List.getLast?_concat]

/-- A word's edge before the first character of a name is the edge of a name unless one of the two
characters next to it is a dollar sign. -/
theorem nameEdge_iff {before : Option Char} {c : Char} {t : Text} (hc : isLatinNameStart c = true)
    (h : wordEdge before (c :: t) = true) :
    before.any isNameChar = false ↔ c ≠ '$' ∧ before ≠ some '$' := by
  have hdollar : isWord '$' = false := by decide
  have hedge : before.any isWord = !isWord c := Bool.eq_not_of_ne (by simpa [wordEdge] using h)
  have hname : before.any isNameChar = (before.any isWord || before == some '$') := by
    cases before <;> simp [isNameChar]
  rw [hname, hedge]
  by_cases hd : c = '$'
  · simp [hd, hdollar]
  · simp [hd, isWord_of_isLatinNameStart hc hd]

end Text

namespace Call

variable {clients : List Text} {t : Text} {call : Call}

/-- No identifier goes on at position `n`: the character before it, if any, is part of none. -/
def AtNameEdge (t : Text) (n : Nat) : Prop :=
  ∀ c, (t.take n).getLast? = some c → isNameChar c = false

def NextToDollar (t : Text) (n : Nat) : Prop :=
  t[n]? = some '$' ∨ (t.take n).getLast? = some '$'

theorem atNameEdge_iff (u v : Text) :
    AtNameEdge (u ++ v) u.length ↔ (endOf none u).any isNameChar = false := by
  rw [AtNameEdge, List.take_left, endOf_none]
  cases u.getLast? <;> simp

theorem nextToDollar_iff (u : Text) (c : Char) (v : Text) :
    NextToDollar (u ++ c :: v) u.length ↔ c = '$' ∨ endOf none u = some '$' := by
  rw [NextToDollar, List.take_left, endOf_none, List.getElem?_append_right (Nat.le_refl _)]
  simp

theorem atNameEdge_of_methodCalls (h : call ∈ methodCalls t clients) :
    AtNameEdge t call.offset := by
  obtain ⟨f, hf, rfl⟩ := List.mem_map.1 h
  obtain ⟨u, v, after, rfl, hstart, hmatch⟩ := match_of_mem_findAll hf
  show AtNameEdge (u ++ v) f.start
  rw [hstart, atNameEdge_iff]
  exact (methodPattern_some hmatch).1

/-- A match of `fetch` begins like a name, at the edge of a word. -/
theorem start_of_fetchPattern {before : Option Char} {v : Text} {r : Text × Text}
    (h : fetchPattern before v = some r) :
    ∃ c rest, v = c :: rest ∧ isLatinNameStart c = true ∧ wordEdge before (c :: rest) = true := by
  obtain ⟨hedge, -⟩ := fetchPattern_some h
  cases v with
  | nil => cases before <;> simp [fetchPattern, identifier?, fetchCall?, afterAnyCase?] at h
  | cons c rest => exact ⟨c, rest, rfl, heads_fetch.start h, hedge⟩

theorem mem_fetchCalls_iff : call ∈ fetchCalls t ↔ ∃ f ∈ findAll fetchPattern t,
    call.offset = f.start ∧ call.url = f.value ∧
      bound t f.start = (call.openIndex, call.closeIndex, call.options) ∧
      fetchMethod? call.options = some call.method := by
  rw [fetchCalls, List.mem_filterMap]
  constructor
  · rintro ⟨f, hf, hcall⟩
    obtain ⟨m, hm, rfl⟩ := Option.map_eq_some_iff.1 hcall
    exact ⟨f, hf, rfl, rfl, rfl, hm⟩
  · rintro ⟨f, hf, hoffset, hurl, hbound, hmethod⟩
    refine ⟨f, hf, ?_⟩
    rw [hbound]
    simp only [hmethod, ← hoffset, ← hurl, Option.map_some]

theorem atNameEdge_of_fetchCalls (h : call ∈ fetchCalls t) :
    AtNameEdge t call.offset ↔ ¬ NextToDollar t call.offset := by
  obtain ⟨f, hf, hoffset, -⟩ := mem_fetchCalls_iff.1 h
  obtain ⟨u, v, after, rfl, hstart, hmatch⟩ := match_of_mem_findAll hf
  obtain ⟨c, rest, rfl, hc, hedge⟩ := start_of_fetchPattern hmatch
  rw [hoffset, hstart, atNameEdge_iff, nextToDollar_iff, not_or]
  exact nameEdge_iff hc hedge

theorem fetchPattern_isSome {before : Option Char} {word arguments : Text}
    (hword : SameLetters "fetch".toList word) (harg : (urlArgument? arguments).isSome = true) :
    (fetchPattern before (word ++ arguments)).isSome = true ↔ before.any isWord = false := by
  have hcall : (fetchCall? (word ++ arguments)).isSome = true := by
    have hafter : afterAnyCase? "fetch".toList (word ++ arguments) = some arguments :=
      afterAnyCase?_eq_some.2 ⟨word, hword, rfl⟩
    rw [fetchCall?, hafter]
    exact harg
  have hedge : wordEdge before (word ++ arguments) = !before.any isWord := by
    have hlatin := hword.latin (by decide)
    cases word with
    | nil => cases hword
    | cons c word =>
      have hc := isWord_of_isLatinLetter (hlatin c (.head _))
      simp [wordEdge, hc]
  rw [fetchPattern, hedge]
  cases before.any isWord with
  | true => simp [guard]
  | false => simp [guard, hcall]

structure BeginsInFetch (t lead word : Text) : Prop where
  split : ∃ arguments, t = lead ++ (word ++ arguments) ∧ (urlArgument? arguments).isSome = true
  lead : ∀ c ∈ lead, isNameChar c = true
  word : SameLetters "fetch".toList word

namespace BeginsInFetch

variable {lead word : Text}

theorem word_chars (h : BeginsInFetch t lead word) : ∀ c ∈ word, isLatinLetter c = true :=
  h.word.latin (by decide)

theorem exists_split (h : BeginsInFetch t lead word) :
    ∃ back body, t = lead ++ (word ++ back) ++ '(' :: body ∧ AllBlank back := by
  obtain ⟨arguments, rfl, hsome⟩ := h.split
  obtain ⟨⟨url, after⟩, harg⟩ := Option.isSome_iff_exists.1 hsome
  obtain ⟨back, body, hback, rfl, _⟩ := urlArgument?_split harg
  exact ⟨back, body, by simp, hback⟩

/-- A head that begins within the identifier ends where the arguments begin. -/
theorem head_eq (h : BeginsInFetch t lead word) {u head body : Text}
    (ht : t = u ++ (head ++ '(' :: body)) (hhead : '(' ∉ head)
    (hu : u.length < (lead ++ word).length) :
    ∃ back, AllBlank back ∧ u ++ head = lead ++ (word ++ back) := by
  obtain ⟨back, body', ht', hback⟩ := h.exists_split
  have hname : '(' ∉ lead ++ word := by
    simp only [List.mem_append, not_or]
    exact ⟨fun hmem => absurd (h.lead _ hmem) (by decide), not_mem_latin h.word_chars⟩
  have hwithin : u <+: lead ++ word := by
    refine List.prefix_of_prefix_length_le ⟨_, ht.symm⟩ ⟨back ++ '(' :: body', ?_⟩ hu.le
    rw [ht']
    simp
  have hfront : '(' ∉ u ++ head := by
    simp only [List.mem_append, not_or]
    exact ⟨fun hmem => hname (hwithin.subset hmem), hhead⟩
  have hback' : '(' ∉ lead ++ (word ++ back) := by
    rw [← List.append_assoc, List.mem_append, not_or]
    exact ⟨hname, not_mem_blanks hback (by decide)⟩
  have hsame : u ++ head ++ '(' :: body = lead ++ (word ++ back) ++ '(' :: body' := by
    rw [← ht', ht, List.append_assoc]
  exact ⟨back, hback, (split_unique hfront hback' hsame).1⟩

theorem point_not_mem (h : BeginsInFetch t lead word) {back : Text} (hback : AllBlank back) :
    '.' ∉ lead ++ (word ++ back) := by
  simp only [List.mem_append, not_or]
  refine ⟨fun hmem => absurd (h.lead _ hmem) (by decide), fun hmem => ?_,
    not_mem_blanks hback (by decide)⟩
  exact absurd (h.word_chars _ hmem) (by decide)

/-- No call on a client begins within the identifier, behind which there is no point. -/
theorem not_method (h : BeginsInFetch t lead word) (hc : Named clients)
    (hcall : call ∈ methodCalls t clients) : ¬ call.offset < (lead ++ word).length := by
  intro hlt
  obtain ⟨f, hf, rfl⟩ := List.mem_map.1 hcall
  obtain ⟨u, v, after, ht, hstart, hmatch⟩ := match_of_mem_findAll hf
  obtain ⟨object, gap, word', back', body, -, -, -, -, hopened⟩ := opened_of_methodPattern hc hmatch
  replace hlt : f.start < (lead ++ word).length := hlt
  rw [hstart] at hlt
  rw [hopened.split] at ht
  obtain ⟨back, hback, heq⟩ := h.head_eq ht hopened.no_paren hlt
  apply h.point_not_mem hback
  rw [← heq]
  simp

/-- A `fetch` that begins within the identifier is the end of it. -/
theorem front_eq (h : BeginsInFetch t lead word) {u v : Text} {before : Option Char}
    {r : Text × Text} (ht : t = u ++ v) (hu : u.length < (lead ++ word).length)
    (hmatch : fetchPattern before v = some r) : u = lead := by
  obtain ⟨-, object, t', rfl, hobject, hfetch⟩ := fetchPattern_some hmatch
  obtain ⟨word', t'', hword', rfl, harg⟩ := fetchCall?_some hfetch
  obtain ⟨back', body, hback', rfl, -⟩ := urlArgument?_split harg
  have hhead : '(' ∉ object ++ (word' ++ back') := by
    simp only [List.mem_append, not_or]
    exact ⟨not_mem_fetchObject hobject, not_mem_latin (hword'.latin (by decide)),
      not_mem_blanks hback' (by decide)⟩
  obtain ⟨back, hback, heq⟩ := h.head_eq (by simpa using ht) hhead hu
  have hnil : object = [] := by
    rcases hobject with rfl | ⟨c, tail, bl, bl', -, -, -, -, rfl⟩
    · rfl
    · refine absurd ?_ (h.point_not_mem hback)
      rw [← heq]
      simp
  subst hnil
  have hlast := last_word hback' hback (fetch_not_blank hword') (fetch_not_blank h.word) heq
  have hlength : word'.length = word.length := by
    rw [← hword'.length_eq, ← h.word.length_eq]
  exact List.reverse_injective (List.append_inj hlast (by simpa using hlength)).2

/-- A `fetch` that is found within the identifier begins where its last letters do, and next to them
there is nothing or a dollar sign. -/
theorem start_eq (h : BeginsInFetch t lead word) {f : Found Text} (hf : f ∈ findAll fetchPattern t)
    (hlt : f.start < (lead ++ word).length) :
    f.start = lead.length ∧ ∀ c, lead.getLast? = some c → c = '$' := by
  obtain ⟨u, v, after, ht, hstart, hmatch⟩ := match_of_mem_findAll hf
  rw [hstart] at hlt
  obtain rfl := h.front_eq ht hlt hmatch
  refine ⟨hstart, ?_⟩
  obtain ⟨arguments, ht', harg⟩ := h.split
  obtain rfl := List.append_cancel_left (ht.symm.trans ht')
  have hword := (fetchPattern_isSome h.word harg).1 (by rw [hmatch]; rfl)
  intro c hc
  rw [endOf_none, hc] at hword
  have hchar := h.lead c (List.mem_of_getLast? hc)
  simpa [isNameChar, show isWord c = false from hword] using hchar

theorem exists_find (h : BeginsInFetch t lead word)
    (hdollar : ∀ c, lead.getLast? = some c → c = '$') :
    ∃ f ∈ findAll fetchPattern t, f.start = lead.length := by
  obtain ⟨arguments, ht, harg⟩ := h.split
  have hedge : (endOf none lead).any isWord = false := by
    rw [endOf_none]
    cases hlast : lead.getLast? with
    | none => rfl
    | some c =>
      rw [hdollar c hlast]
      decide
  obtain ⟨⟨url, after⟩, hmatch⟩ :=
    Option.isSome_iff_exists.1 ((fetchPattern_isSome h.word harg).2 hedge)
  have hquiet : Quiet fetchPattern none lead (word ++ arguments) := by
    apply quiet_of_no_match
    intro x c y r hlead hr
    have hx : x.length < lead.length := by
      rw [hlead]
      simp
    have hsplit : t = x ++ (c :: y ++ (word ++ arguments)) := by
      rw [ht, hlead]
      simp
    have heq := h.front_eq hsplit (by rw [List.length_append]; omega) hr
    rw [heq] at hx
    exact Nat.lt_irrefl _ hx
  have hne : word ++ arguments ≠ [] := by
    intro hnil
    rw [(List.append_eq_nil_iff.1 hnil).1] at h
    cases h.word
  have hfirst : find? fetchPattern t = some ⟨lead.length, url⟩ :=
    find?_eq_some.2 ⟨lead, _, after, hne, ht, rfl, hmatch, hquiet⟩
  exact ⟨_, List.mem_of_head? hfirst, rfl⟩

end BeginsInFetch

/-- A call that is found begins at the edge of an identifier, unless it is a `fetch` next to whose
beginning there is a dollar sign. So an identifier that ends in `fetch` is a call of that kind, if
its method is known, exactly when nothing or a dollar sign stands before these letters. -/
theorem atNameEdge_iff_dollar (hc : Named clients) (t : Text) :
    (∀ call ∈ findCalls t clients,
      (AtNameEdge t call.offset ↔ ¬ (call ∈ fetchCalls t ∧ NextToDollar t call.offset))) ∧
    ∀ lead word, BeginsInFetch t lead word →
      ((∃ call ∈ findCalls t clients, call.offset < (lead ++ word).length) ↔
        (∀ c, lead.getLast? = some c → c = '$') ∧
          (fetchMethod? (bound t lead.length).2.2).isSome = true) := by
  have hmem : ∀ call, call ∈ findCalls t clients ↔
      call ∈ methodCalls t clients ∨ call ∈ fetchCalls t := by
    intro call
    rw [(findCalls_perm t clients).mem_iff, List.mem_append]
  constructor
  · intro call hcall
    by_cases hfetch : call ∈ fetchCalls t
    · rw [atNameEdge_of_fetchCalls hfetch]
      simp [hfetch]
    · have hmethod := ((hmem call).1 hcall).resolve_right hfetch
      simp [hfetch, atNameEdge_of_methodCalls hmethod]
  · intro lead word h
    constructor
    · rintro ⟨call, hcall, hlt⟩
      rcases (hmem call).1 hcall with hmethod | hfetch
      · exact absurd hlt (h.not_method hc hmethod)
      · obtain ⟨f, hf, hoffset, -, hbound, hmethod⟩ := mem_fetchCalls_iff.1 hfetch
        rw [hoffset] at hlt
        obtain ⟨hstart, hdollar⟩ := h.start_eq hf hlt
        rw [hstart] at hbound
        refine ⟨hdollar, ?_⟩
        rw [hbound]
        exact Option.isSome_iff_exists.2 ⟨_, hmethod⟩
    · rintro ⟨hdollar, hmethod⟩
      obtain ⟨f, hf, hstart⟩ := h.exists_find hdollar
      obtain ⟨m, hm⟩ := Option.isSome_iff_exists.1 hmethod
      let call : Call := ⟨f.start, m, f.value, (bound t lead.length).1, (bound t lead.length).2.1,
        (bound t lead.length).2.2⟩
      have hfetch : call ∈ fetchCalls t :=
        mem_fetchCalls_iff.2 ⟨f, hf, rfl, rfl, by rw [hstart], hm⟩
      refine ⟨call, (hmem call).2 (.inr hfetch), ?_⟩
      show f.start < (lead ++ word).length
      have hword : 0 < word.length := by
        rw [← h.word.length_eq]
        decide
      rw [hstart, List.length_append]
      omega

/-- A `fetch` behind a dollar sign, and a call on a client. -/
theorem atNameEdge_iff_dollar_mixed :
    let t := "$fetch ('/a'); api.get('/b')".toList
    let clients := ["api".toList]
    let call : Call := ⟨15, .get, "/b".toList, 22, some 27, []⟩
    Named clients ∧ call ∈ findCalls t clients ∧ AtNameEdge t call.offset ∧
      BeginsInFetch t ['$'] "fetch".toList ∧
      ∃ call ∈ findCalls t clients, call.offset < ("$fetch".toList).length := by
  intro t clients call
  have hc : Named clients := by unfold Named; decide
  have hmethod : call ∈ methodCalls t clients := by decide +kernel
  have hcall : call ∈ findCalls t clients :=
    (findCalls_perm t clients).mem_iff.2 (List.mem_append_left _ hmethod)
  have hbegins : BeginsInFetch t ['$'] "fetch".toList :=
    ⟨⟨" ('/a'); api.get('/b')".toList, rfl, by decide +kernel⟩, by decide, sameLetters_refl _⟩
  obtain ⟨hedge, hfetch⟩ := atNameEdge_iff_dollar hc t
  have hnext : ¬ NextToDollar t call.offset := by unfold NextToDollar; decide
  refine ⟨hc, hcall, (hedge call hcall).2 (fun h => hnext h.2), hbegins, ?_⟩
  refine (hfetch ['$'] "fetch".toList hbegins).2 ⟨?_, by decide +kernel⟩
  intro c hc
  exact (Option.some.inj hc).symm

/-- A function whose name ends in `fetch` is taken for it. -/
theorem atNameEdge_iff_dollar_wrapper :
    let t := "$fetch('/a')".toList
    findCalls t ["request".toList] = [⟨1, .get, "/a".toList, 6, some 11, []⟩] ∧
      ¬ AtNameEdge t 1 := by
  intro t
  refine ⟨by decide +kernel, fun h => ?_⟩
  exact absurd (h '$' rfl) (by decide)

end Call
end EndpointManifest
