import EndpointManifest.Proofs.Call.Local

/-! Where the arguments of a call open. The parenthesis of a call is looked for from the call's first
character on, so it is the call's own one unless a parenthesis stands in the name of its client. -/

namespace EndpointManifest.Call

open Text

/-- A call as it is written: what names the client, the rest of the head, the parenthesis, the
URL. -/
structure Written (t : Text) (call : Call) (object gap body : Text) : Prop where
  split : t.drop call.offset = object ++ (gap ++ '(' :: body)
  no_paren : '(' ∉ gap
  literal : ∃ q rest, isQuote q = true ∧ skipBlanks body = q :: (call.url ++ q :: rest)
  bounds : bound t call.offset = (call.openIndex, call.closeIndex, call.options)

/-- The arguments of a call are its own: its parenthesis opens the list that begins with the quoted
URL, and what closes the list is what closes this parenthesis. -/
structure HasOwnArguments (t : Text) (call : Call) : Prop where
  opens : t[call.openIndex]? = some '('
  literal : ∃ q rest, isQuote q = true ∧
    skipBlanks (t.drop (call.openIndex + 1)) = q :: (call.url ++ q :: rest)
  closes : call.closeIndex = Delimiter.matching? t call.openIndex

theorem literal_of_plainLiteral? {body url rest : Text}
    (h : plainLiteral? (skipBlanks body) = some (url, rest)) :
    ∃ q rest, isQuote q = true ∧ skipBlanks body = q :: (url ++ q :: rest) := by
  obtain ⟨q, hq, _, _, hbody⟩ := plainLiteral?_eq_some.1 h
  exact ⟨q, rest, hq, hbody⟩

theorem written_of_methodCalls {clients : List Text} {t : Text} {call : Call}
    (h : call ∈ methodCalls t clients) :
    ∃ object gap body, IsClient clients object ∧ Written t call object gap body := by
  obtain ⟨f, hf, rfl⟩ := List.mem_map.1 h
  obtain ⟨u, v, after, rfl, hstart, hmatch⟩ := match_of_mem_findAll hf
  obtain ⟨_, object, t', hclient, rfl, hcall⟩ := methodPattern_some hmatch
  obtain ⟨bl, gap, word, t'', hbl, hgap, hword, rfl, harg⟩ := verbCall?_some hcall
  obtain ⟨back, body, hback, rfl, hliteral⟩ := urlArgument?_split harg
  refine ⟨object, bl ++ '.' :: (gap ++ (word ++ back)), body, hclient, ?_, ?_,
    literal_of_plainLiteral? hliteral, rfl⟩
  · rw [hstart, List.drop_left]
    simp
  · simp only [List.mem_append, List.mem_cons, not_or]
    exact ⟨not_mem_blanks hbl (by decide), by decide, not_mem_blanks hgap (by decide),
      not_mem_latin (hword.latin (verb_letters _)), not_mem_blanks hback (by decide)⟩

theorem written_of_fetchCalls {t : Text} {call : Call} (h : call ∈ fetchCalls t) :
    ∃ gap body, Written t call [] gap body := by
  obtain ⟨head, body, hlocated⟩ := located_of_fetchCalls h
  obtain ⟨rest, hliteral⟩ := hlocated.literal
  exact ⟨head, body, hlocated.split, hlocated.no_paren, literal_of_plainLiteral? hliteral,
    hlocated.bounds⟩

/-- A client has a parenthesis in it only where its name in the list has one. -/
theorem IsClient.not_mem_paren {clients : List Text} {object : Text} (h : IsClient clients object)
    (hclients : ∀ client ∈ clients, '(' ∉ client) : '(' ∉ object := by
  intro hmem
  rcases h with ⟨client, hclient, hsame⟩ | ⟨_, c, tail, rfl, hfirst, htail⟩
  · obtain ⟨a, ha, hparen⟩ := hsame.symm.exists_mem hmem
    obtain rfl := eq_of_sameLetter_mark (by decide) (by decide) hparen
    exact hclients client hclient ha
  · rcases List.mem_cons.1 hmem with rfl | hmem
    · exact absurd hfirst (by decide)
    · exact absurd (htail _ hmem) (by decide)

theorem getElem?_findIdx {t : Text} {c : Char} (h : c ∈ t) : t[t.findIdx (· == c)]? = some c := by
  have hlt : t.findIdx (· == c) < t.length :=
    List.findIdx_lt_length_of_exists ⟨c, h, beq_self_eq_true c⟩
  have hfound := @List.findIdx_getElem _ (· == c) t hlt
  rw [List.getElem?_eq_getElem hlt, eq_of_beq hfound]

namespace Written

variable {t object gap body : Text} {call : Call}

theorem openIndex_eq (h : Written t call object gap body) :
    call.openIndex = call.offset + (object ++ (gap ++ '(' :: body)).findIdx (· == '(') := by
  rw [← h.split]
  exact (congrArg Prod.fst h.bounds).symm

theorem closeIndex_eq (h : Written t call object gap body) :
    call.closeIndex = Delimiter.matching? t call.openIndex := by
  rw [h.openIndex_eq, ← h.split]
  exact (congrArg (·.2.1) h.bounds).symm

theorem getElem?_openIndex (h : Written t call object gap body) :
    t[call.openIndex]? = some '(' := by
  rw [h.openIndex_eq, ← List.getElem?_drop, h.split]
  exact getElem?_findIdx (by simp)

/-- The call opens at its own parenthesis iff none stands in the name of its client. -/
theorem openIndex_eq_iff (h : Written t call object gap body) :
    call.openIndex = call.offset + (object ++ gap).length ↔ '(' ∉ object := by
  rw [h.openIndex_eq, Nat.add_left_cancel_iff, List.findIdx_append]
  constructor
  · intro heq hmem
    have hexists : ∃ c ∈ object, (c == '(') = true := ⟨'(', hmem, rfl⟩
    have hlt := List.findIdx_lt_length_of_exists hexists
    rw [if_pos hlt] at heq
    rw [List.length_append] at heq
    omega
  · intro hmem
    have hobject : ¬ object.findIdx (· == '(') < object.length := by simpa using hmem
    have hgap : ¬ gap.findIdx (· == '(') < gap.length := by simpa using h.no_paren
    rw [if_neg hobject, List.findIdx_append, if_neg hgap, List.length_append, List.findIdx_cons]
    simp [Nat.add_comm]

theorem hasOwnArguments (h : Written t call object gap body) (hobject : '(' ∉ object) :
    HasOwnArguments t call := by
  refine ⟨h.getElem?_openIndex, ?_, h.closeIndex_eq⟩
  obtain ⟨q, rest, hq, hbody⟩ := h.literal
  refine ⟨q, rest, hq, ?_⟩
  have hdrop : t.drop (call.openIndex + 1) = body := by
    have hsplit : t.drop call.offset = (object ++ gap) ++ '(' :: body := by
      rw [h.split, List.append_assoc]
    rw [h.openIndex_eq_iff.2 hobject, ← List.drop_drop, drop_openIndex hsplit]
    rfl
  rw [hdrop, hbody]

end Written

/-- A call is found with a parenthesis and with what closes it. It is the parenthesis before the URL
exactly when the client, as it stands in the text, has no parenthesis in it; so the arguments of
every call are its own if no name of a client has one. -/
theorem openIndex_own_iff (t : Text) (clients : List Text) :
    (∀ call ∈ findCalls t clients, ∃ object gap body,
      (object = [] ∨ IsClient clients object) ∧ Written t call object gap body ∧
        t[call.openIndex]? = some '(' ∧
        call.closeIndex = Delimiter.matching? t call.openIndex ∧
        (call.openIndex = call.offset + (object ++ gap).length ↔ '(' ∉ object) ∧
        ('(' ∉ object → HasOwnArguments t call)) ∧
      ((∀ client ∈ clients, '(' ∉ client) →
        ∀ call ∈ findCalls t clients, HasOwnArguments t call) := by
  have hwritten : ∀ call ∈ findCalls t clients, ∃ object gap body,
      (object = [] ∨ IsClient clients object) ∧ Written t call object gap body := by
    intro call hcall
    rw [findCalls, List.mem_mergeSort, List.mem_append] at hcall
    rcases hcall with hcall | hcall
    · obtain ⟨object, gap, body, hclient, h⟩ := written_of_methodCalls hcall
      exact ⟨object, gap, body, .inr hclient, h⟩
    · obtain ⟨gap, body, h⟩ := written_of_fetchCalls hcall
      exact ⟨[], gap, body, .inl rfl, h⟩
  constructor
  · intro call hcall
    obtain ⟨object, gap, body, hobject, h⟩ := hwritten call hcall
    exact ⟨object, gap, body, hobject, h, h.getElem?_openIndex, h.closeIndex_eq,
      h.openIndex_eq_iff, h.hasOwnArguments⟩
  · intro hclients call hcall
    obtain ⟨object, gap, body, hobject, h⟩ := hwritten call hcall
    apply h.hasOwnArguments
    rcases hobject with rfl | hclient
    · simp
    · exact hclient.not_mem_paren hclients

/-- Parentheses among the arguments make no difference. -/
theorem openIndex_own_iff_plain :
    let t := "api.get('/b', { body: f(1) })".toList
    let call : Call := ⟨0, .get, "/b".toList, 7, some 28, "{ body: f(1) }".toList⟩
    call ∈ findCalls t ["api".toList] ∧ (∀ client ∈ ["api".toList], '(' ∉ client) ∧
      HasOwnArguments t call ∧ ∃ object gap body, Written t call object gap body ∧
        (call.openIndex = call.offset + (object ++ gap).length ↔ '(' ∉ object) := by
  intro t call
  have hcall : call ∈ findCalls t ["api".toList] := by decide +kernel
  have hclients : ∀ client ∈ ["api".toList], '(' ∉ client := by decide
  obtain ⟨hfound, hown⟩ := openIndex_own_iff t ["api".toList]
  obtain ⟨object, gap, body, _, hwritten, _, _, hiff, _⟩ := hfound call hcall
  exact ⟨hcall, hclients, hown hclients call hcall, object, gap, body, hwritten, hiff⟩

/-- A client that is itself the result of a call: its empty parentheses are taken for the arguments,
and the options are lost. -/
theorem openIndex_own_calledClient :
    let t := "getClient().post('/a', { data: 1 })".toList
    findCalls t ["getClient()".toList] = [⟨0, .post, "/a".toList, 9, some 10, []⟩] ∧
      ¬ HasOwnArguments t ⟨0, .post, "/a".toList, 9, some 10, []⟩ := by
  intro t
  refine ⟨by decide +kernel, fun h => ?_⟩
  obtain ⟨q, rest, hq, hbody⟩ := h.literal
  obtain ⟨rfl, _⟩ := List.cons.inj hbody
  exact absurd hq (by decide)

end EndpointManifest.Call
