import EndpointManifest.Proofs.Call.Opening
import EndpointManifest.Proofs.WellFormed

/-! The options of a call as a block of the source. Its arguments are the URL, blanks with perhaps a
comma among them, and what follows; the options are the block that begins there, if one does, and
ends before the arguments do. -/

namespace EndpointManifest

open Text

theorem Text.front_of_not_mem {u v w after : Text} {d : Char} (hd : d ∉ v)
    (h : u ++ d :: after = v ++ w) : ∃ x, u = v ++ x ∧ w = x ++ d :: after := by
  rcases List.append_eq_append_iff.1 h with ⟨x, hv, hx⟩ | ⟨x, hu, hx⟩
  · cases x with
    | nil => exact ⟨[], by simpa using hv.symm, hx.symm⟩
    | cons c x =>
      obtain ⟨rfl, _⟩ := List.cons.inj hx
      exact absurd (by rw [hv]; simp) hd
  · exact ⟨x, hu, hx⟩

theorem Text.dropTrailing_split (p : Char → Bool) (t : Text) :
    ∃ back, t = dropTrailing p t ++ back := by
  refine ⟨(t.reverse.takeWhile p).reverse, ?_⟩
  rw [dropTrailing, ← List.reverse_append, List.takeWhile_append_dropWhile, List.reverse_reverse]

namespace Delimiter

/-- No bracket is blank, so a block ends where it does without the blanks behind it. -/
theorem blockEnd?_dropTrailing (t : Text) : blockEnd? (dropTrailing isBlank t) = blockEnd? t := by
  apply Option.ext
  intro n
  constructor
  · intro h
    obtain ⟨back, hsplit⟩ := dropTrailing_split isBlank t
    rw [hsplit]
    exact blockEnd?_append h
  · intro h
    obtain ⟨o, c, inside, after, hclose, hbalanced, rfl, rfl⟩ := blockEnd?_eq_some.1 h
    have hblank : isBlank c = false := by
      unfold closer? at hclose
      split_ifs at hclose <;> obtain rfl := Option.some.inj hclose <;> decide
    rw [← List.cons_append, dropTrailing_append hblank]
    exact blockEnd?_closed hclose hbalanced _

theorem blockEnd?_front {u v : Text} {n : Nat} :
    blockEnd? u = some n ↔ blockEnd? (u ++ v) = some n ∧ n < u.length := by
  constructor
  · intro h
    refine ⟨blockEnd?_append h, ?_⟩
    obtain ⟨o, c, inside, after, -, -, rfl, rfl⟩ := blockEnd?_eq_some.1 h
    simp
  · rintro ⟨h, hn⟩
    simpa using blockEnd?_swap h hn []

end Delimiter

namespace Call

open Delimiter

def frontBlock (t : Text) : Text :=
  if t.head? = some '{' then
    match blockEnd? t with
    | some n => t.take (n + 1)
    | none => []
  else []

/-- Blanks with at most one comma among them, and all of them that stand before the rest. -/
structure Gap (gap rest : Text) : Prop where
  chars : ∃ bl bl', AllBlank bl ∧ AllBlank bl' ∧
    (gap = bl ++ ',' :: bl' ∨ gap = bl ∧ rest.head? ≠ some ',')
  stops : ∀ c, rest.head? = some c → isBlank c = false

theorem exists_gap (t : Text) : ∃ gap rest, t = gap ++ rest ∧ Gap gap rest := by
  have hstops (u : Text) : ∀ c, (skipBlanks u).head? = some c → isBlank c = false := by
    intro c hc
    obtain ⟨rest, hrest⟩ := List.head?_eq_some_iff.1 hc
    exact head_skipBlanks hrest
  obtain ⟨bl, hbl, hsplit⟩ := skipBlanks_split t
  by_cases hcomma : (skipBlanks t).head? = some ','
  · obtain ⟨u, hu⟩ := List.head?_eq_some_iff.1 hcomma
    obtain ⟨bl', hbl', hsplit'⟩ := skipBlanks_split u
    refine ⟨bl ++ ',' :: bl', skipBlanks u, ?_, ⟨bl, bl', hbl, hbl', .inl rfl⟩, hstops u⟩
    rw [List.append_assoc, List.cons_append, ← hsplit', ← hu, ← hsplit]
  · exact ⟨bl, skipBlanks t, hsplit, ⟨bl, [], hbl, allBlank_nil, .inr ⟨rfl, hcomma⟩⟩, hstops t⟩

theorem Gap.not_mem {gap rest : Text} (h : Gap gap rest) : ')' ∉ gap := by
  obtain ⟨bl, bl', hbl, hbl', rfl | ⟨rfl, _⟩⟩ := h.chars
  · simp only [List.mem_append, List.mem_cons, not_or]
    exact ⟨not_mem_blanks hbl (by decide), by decide, not_mem_blanks hbl' (by decide)⟩
  · exact not_mem_blanks hbl (by decide)

theorem trim_blanks {bl : Text} (h : AllBlank bl) (t : Text) : trim (bl ++ t) = trim t := by
  rw [trim, trim, skipBlanks_append h]

theorem Gap.skipBlanks_eq {gap rest : Text} (h : Gap gap rest) : skipBlanks rest = rest := by
  cases rest with
  | nil => rfl
  | cons c rest => exact skipBlanks_cons (h.stops c rfl) rest

theorem Gap.of_append {gap u v : Text} (h : Gap gap (u ++ v)) : Gap gap u := by
  have hhead : ∀ c, u.head? = some c → (u ++ v).head? = some c := by
    intro c hc
    rw [List.head?_append, hc]
    rfl
  obtain ⟨bl, bl', hbl, hbl', hgap⟩ := h.chars
  refine ⟨⟨bl, bl', hbl, hbl', ?_⟩, fun c hc => h.stops c (hhead c hc)⟩
  exact hgap.imp_right fun hblank => ⟨hblank.1, fun hc => hblank.2 (hhead _ hc)⟩

theorem Gap.trim_eq {gap rest : Text} (h : Gap gap rest) :
    trim ((afterMark? ',' (gap ++ rest)).getD (gap ++ rest)) = dropTrailing isBlank rest := by
  have htrim : trim rest = dropTrailing isBlank rest := by rw [trim, h.skipBlanks_eq]
  obtain ⟨bl, bl', hbl, hbl', rfl | ⟨rfl, hcomma⟩⟩ := h.chars
  · have hafter : afterMark? ',' (bl ++ ',' :: bl' ++ rest) = some (bl' ++ rest) :=
      (afterMark?_eq_some (by decide)).2 ⟨bl, hbl, by simp⟩
    rw [hafter, Option.getD_some, trim_blanks hbl', htrim]
  · have hafter : afterMark? ',' (gap ++ rest) = none := by
      rw [afterMark?, skipBlanks_append hbl, h.skipBlanks_eq]
      cases rest with
      | nil => rfl
      | cons c rest =>
        have hne : ¬ ',' = c := by
          rintro rfl
          exact hcomma rfl
        simp [after?, hne]
    rw [hafter, Option.getD_none, trim_blanks hbl, htrim]

theorem dropFirstArgument_blanks {bl : Text} (hbl : AllBlank bl) (t : Text) :
    trim (dropFirstArgument (bl ++ t)) = trim (dropFirstArgument t) := by
  have htrim := trim_blanks hbl t
  rw [dropFirstArgument, dropFirstArgument, skipBlanks_append hbl]
  split
  · split
    · exact htrim
    · rfl
  · exact htrim

theorem optionsOf_blanks {bl : Text} (hbl : AllBlank bl) (t : Text) :
    optionsOf (bl ++ t) = optionsOf t := by
  rw [optionsOf, optionsOf, dropFirstArgument_blanks hbl]

/-- The options are the block that stands behind the URL and the gap after it. -/
theorem optionsOf_gap {bl url gap rest : Text} {q : Char} (hbl : AllBlank bl)
    (hq : isQuote q = true) (hne : url ≠ []) (hurl : q ∉ url) (h : Gap gap rest) :
    optionsOf (bl ++ q :: (url ++ q :: (gap ++ rest))) = frontBlock rest := by
  rw [optionsOf_blanks hbl, optionsOf, dropFirstArgument_url hq hne hurl, h.trim_eq, frontBlock]
  cases hend : blockEnd? rest with
  | none => simp [blockEnd?_dropTrailing, hend]
  | some n =>
    have hend' := (blockEnd?_dropTrailing rest).trans hend
    obtain ⟨o, c, inside, after, -, -, hsplit, hn⟩ := blockEnd?_eq_some.1 hend'
    obtain ⟨back, hback⟩ := dropTrailing_split isBlank rest
    have hhead : rest.head? = some o := by
      rw [hback, hsplit]
      rfl
    have hstart : startsWith ['{'] (dropTrailing isBlank rest) = true ↔ o = '{' := by
      rw [hsplit]
      simp only [startsWith, List.isPrefixOf, Bool.and_true, beq_iff_eq]
      exact eq_comm
    have htake : rest.take (n + 1) = (dropTrailing isBlank rest).take (n + 1) := by
      conv_lhs => rw [hback]
      refine List.take_append_of_le_length ?_
      rw [hsplit, hn]
      simp
    by_cases ho : o = '{'
    · rw [if_pos (hstart.2 ho), if_pos (hhead.trans (congrArg some ho))]
      simp only [hend', htake]
    · simp [hstart, hhead, ho]

/-- Among the arguments that open at `openIndex` the URL ends with the quote at `last`, and `a` is the
first position behind it that is neither blank nor the comma after the URL. -/
def BehindUrl (t url : Text) (openIndex last a : Nat) : Prop :=
  ∃ bl q gap rest, AllBlank bl ∧ isQuote q = true ∧ Gap gap rest ∧
    t.drop (openIndex + 1) = bl ++ q :: (url ++ q :: (gap ++ rest)) ∧
    last = openIndex + 1 + bl.length + 1 + url.length ∧ a = last + 1 + gap.length

/-- Behind a URL that ends at `last` a block goes from `a` to `b`, both before position `close`. -/
structure HasBlock (t : Text) (last a close b : Nat) : Prop where
  url : last < close
  opens : t[a]? = some '{'
  closes : matching? t a = some b
  inside : b < close

section

variable {t url rest after : Text} {last a close b : Nat}

/-- A block among the arguments is one of what is left of them behind the URL. -/
theorem hasBlock_iff (hdrop : t.drop a = rest ++ ')' :: after) (hlast : last < close)
    (hclose : close = a + rest.length) :
    HasBlock t last a close b ↔
      rest.head? = some '{' ∧ ∃ n, blockEnd? rest = some n ∧ b = a + n := by
  have hhead : t[a]? = some '{' ↔ rest.head? = some '{' := by
    rw [← List.head?_drop, hdrop]
    cases rest <;> simp
  have hmatching := matching?_of_drop hdrop
  constructor
  · rintro ⟨-, hopens, hcloses, hinside⟩
    rw [hmatching] at hcloses
    obtain ⟨n, hn, rfl⟩ := Option.map_eq_some_iff.1 hcloses
    exact ⟨hhead.1 hopens, n, blockEnd?_front.2 ⟨hn, by omega⟩, rfl⟩
  · rintro ⟨hopens, n, hn, rfl⟩
    obtain ⟨hfront, hlt⟩ := (@blockEnd?_front rest (')' :: after) n).1 hn
    refine ⟨hlast, hhead.2 hopens, ?_, by omega⟩
    rw [hmatching, hfront]
    rfl

theorem optionsOf_within {bl inside back : Text} {q : Char} (hbl : AllBlank bl)
    (hq : isQuote q = true) (hurl : q ∉ url)
    (h : inside ++ ')' :: after = bl ++ q :: (url ++ back))
    (hlength : inside.length ≤ (bl ++ q :: url).length) : optionsOf inside = [] := by
  have hparen : ')' ≠ q := by
    rintro rfl
    exact absurd hq (by decide)
  rcases List.append_eq_append_iff.1 h with ⟨x, rfl, hx⟩ | ⟨x, rfl, hx⟩
  · cases x with
    | nil => exact absurd (List.cons.inj hx).1 hparen
    | cons c x =>
      obtain ⟨rfl, _⟩ := List.cons.inj hx
      exact absurd (by simp) (not_mem_blanks hbl (c := ')') (by decide))
  · cases x with
    | nil => exact absurd (List.cons.inj hx).1.symm hparen
    | cons c x =>
      obtain ⟨rfl, htail⟩ := List.cons.inj hx
      rw [optionsOf_blanks hbl]
      refine optionsOf_unclosed hq fun hmem => hurl ?_
      have hstart : x <+: url := by
        refine List.prefix_of_prefix_length_le ⟨_, htail.symm⟩ (List.prefix_append url back) ?_
        simpa using hlength
      exact hstart.subset hmem

theorem frontBlock_eq_nil (h : rest.head? = some '{' → blockEnd? rest = none) :
    frontBlock rest = [] := by
  unfold frontBlock
  split
  · next hhead => rw [h hhead]
  · rfl

theorem frontBlock_eq {n : Nat} (hhead : rest.head? = some '{') (h : blockEnd? rest = some n) :
    frontBlock rest = rest.take (n + 1) := by
  rw [frontBlock, if_pos hhead, h]

/-- What is left of the arguments behind the URL begins with the block, if there is one. -/
theorem frontBlock_hasBlock (hdrop : t.drop a = rest ++ ')' :: after) (hlast : last < close)
    (hclose : close = a + rest.length) :
    (∀ b, HasBlock t last a close b → frontBlock rest = (t.drop a).take (b + 1 - a)) ∧
      ((∀ b, ¬ HasBlock t last a close b) → frontBlock rest = []) := by
  constructor
  · intro b hblock
    obtain ⟨hhead, n, hn, rfl⟩ := (hasBlock_iff hdrop hlast hclose).1 hblock
    have hlength := ((@blockEnd?_front rest (')' :: after) n).1 hn).2
    rw [frontBlock_eq hhead hn, hdrop, Nat.add_assoc, Nat.add_sub_cancel_left,
      List.take_append_of_le_length hlength]
  · intro hnone
    refine frontBlock_eq_nil fun hhead => Option.eq_none_iff_forall_ne_some.2 fun n hn => ?_
    exact hnone _ ((hasBlock_iff hdrop hlast hclose).2 ⟨hhead, n, hn, rfl⟩)

theorem exists_behind_gap {bl gap inside : Text} {q : Char} (hgap : Gap gap rest)
    (h : inside ++ ')' :: after = bl ++ q :: (url ++ q :: (gap ++ rest)))
    (hlength : (bl ++ q :: url).length < inside.length) :
    ∃ behind, inside = bl ++ q :: (url ++ q :: (gap ++ behind)) ∧
      rest = behind ++ ')' :: after := by
  have hfront : inside ++ ')' :: after = (bl ++ q :: (url ++ [q])) ++ (gap ++ rest) := by
    rw [h]
    simp
  obtain ⟨x, rfl⟩ : bl ++ q :: (url ++ [q]) <+: inside := by
    refine List.prefix_of_prefix_length_le ⟨_, hfront.symm⟩ (List.prefix_append ..) ?_
    simp only [List.length_append, List.length_cons, List.length_nil] at hlength ⊢
    omega
  rw [List.append_assoc] at hfront
  obtain ⟨behind, rfl, rfl⟩ := front_of_not_mem hgap.not_mem (List.append_cancel_left hfront)
  exact ⟨behind, by simp, rfl⟩

theorem options_of_behindUrl {options : Text} {offset openIndex : Nat}
    (hbound : bound t offset = (openIndex, some close, options)) (hopen : t[openIndex]? = some '(')
    (hurl : url ≠ [] ∧ ∀ c ∈ url, isQuote c = false) (h : BehindUrl t url openIndex last a) :
    (∀ b, HasBlock t last a close b → options = (t.drop a).take (b + 1 - a)) ∧
      ((∀ b, ¬ HasBlock t last a close b) → options = []) := by
  obtain ⟨inside, after, hbody, hclose, rfl, -⟩ := bound_closed hbound hopen
  obtain ⟨bl, q, gap, rest, hbl, hq, hgap, hsplit, hlast, ha⟩ := h
  have hquote : q ∉ url := by
    intro hmem
    rw [hurl.2 q hmem] at hq
    cases hq
  have hlength : last = openIndex + 1 + (bl ++ q :: url).length := by
    simp only [List.length_append, List.length_cons]
    omega
  by_cases hwithin : last < close
  · obtain ⟨behind, rfl, rfl⟩ := exists_behind_gap hgap (hbody.symm.trans hsplit) (by omega)
    rw [optionsOf_gap hbl hq hurl.1 hquote hgap.of_append]
    have hpast : a = openIndex + 1 + (bl ++ q :: (url ++ q :: gap)).length := by
      simp only [List.length_append, List.length_cons]
      omega
    have hfront : t.drop (openIndex + 1) =
        (bl ++ q :: (url ++ q :: gap)) ++ (behind ++ ')' :: after) := by
      rw [hsplit]
      simp
    have hdrop : t.drop a = behind ++ ')' :: after := by
      rw [hpast, ← List.drop_drop, hfront, List.drop_left]
    refine frontBlock_hasBlock hdrop hwithin ?_
    rw [hclose, hpast]
    simp only [List.length_append, List.length_cons]
    omega
  · -- the arguments end within the URL
    have hnil : optionsOf inside = [] :=
      optionsOf_within hbl hq hquote (hbody.symm.trans hsplit) (by omega)
    exact ⟨fun b hblock => absurd hblock.url hwithin, fun _ => hnil⟩

theorem HasBlock.exists_inside (h : HasBlock t last a close b) :
    a < b ∧ ∃ inside, (t.drop a).take (b + 1 - a) = '{' :: (inside ++ ['}']) ∧
      Balanced '{' '}' inside := by
  have hcloses := h.closes
  rw [matching?_of_drop rfl] at hcloses
  obtain ⟨n, hn, rfl⟩ := Option.map_eq_some_iff.1 hcloses
  obtain ⟨o, c, inside, back, hcloser, hbalanced, hdrop, rfl⟩ := blockEnd?_eq_some.1 hn
  obtain rfl : '{' = o := by
    have hopens := h.opens
    rw [← List.head?_drop, hdrop] at hopens
    exact (Option.some.inj hopens).symm
  obtain rfl := Option.some.inj hcloser
  refine ⟨by omega, inside, ?_, hbalanced⟩
  rw [hdrop, Nat.add_assoc, Nat.add_sub_cancel_left, List.take_succ_cons,
    List.take_length_add_append]
  rfl

theorem BehindUrl.openIndex_lt {openIndex : Nat} (h : BehindUrl t url openIndex last a) :
    openIndex < a := by
  obtain ⟨_, _, _, _, _, _, _, _, rfl, rfl⟩ := h
  omega

theorem HasOwnArguments.exists_behindUrl {call : Call} (h : HasOwnArguments t call) :
    ∃ last a, BehindUrl t call.url call.openIndex last a := by
  obtain ⟨q, rest, hq, hliteral⟩ := h.literal
  obtain ⟨bl, hbl, hsplit⟩ := skipBlanks_split (t.drop (call.openIndex + 1))
  obtain ⟨gap, rest, rfl, hgap⟩ := exists_gap rest
  rw [hliteral] at hsplit
  exact ⟨_, _, bl, q, gap, rest, hbl, hq, hgap, hsplit, rfl, rfl⟩

theorem written_of_findCalls {clients : List Text} {call : Call} (h : call ∈ findCalls t clients) :
    ∃ object gap body, (object = [] ∨ IsClient clients object) ∧ Written t call object gap body := by
  rw [findCalls, List.mem_mergeSort, List.mem_append] at h
  rcases h with h | h
  · obtain ⟨object, gap, body, hclient, hwritten⟩ := written_of_methodCalls h
    exact ⟨object, gap, body, .inr hclient, hwritten⟩
  · obtain ⟨gap, body, hwritten⟩ := written_of_fetchCalls h
    exact ⟨[], gap, body, .inl rfl, hwritten⟩

end

/-- The options of a closed call are the block that begins behind its URL, with blanks and one comma
passed, if there is one and both it and the URL end before the arguments do. Else there are none. So
they are balanced text between braces, inside the parentheses of the call. -/
theorem options_eq_block {clients : List Text} (hc : ∀ client ∈ clients, '(' ∉ client) (t : Text) :
    ∀ call ∈ findCalls t clients, ∀ close, call.closeIndex = some close →
      (∃ last a, BehindUrl t call.url call.openIndex last a) ∧
      ∀ last a, BehindUrl t call.url call.openIndex last a →
        (∀ b, HasBlock t last a close b → call.options = (t.drop a).take (b + 1 - a)) ∧
        ((∀ b, ¬ HasBlock t last a close b) → call.options = []) ∧
        (call.options ≠ [] → ∃ b inside, HasBlock t last a close b ∧ call.openIndex < a ∧ a < b ∧
          call.options = '{' :: (inside ++ ['}']) ∧ Balanced '{' '}' inside) := by
  intro call hcall close hclose
  obtain ⟨object, gap, body, hobject, hwritten⟩ := written_of_findCalls hcall
  have hparen : '(' ∉ object := by
    rcases hobject with rfl | hclient
    · simp
    · exact hclient.not_mem_paren hc
  have hown := hwritten.hasOwnArguments hparen
  have hbound := hwritten.bounds
  rw [hclose] at hbound
  refine ⟨hown.exists_behindUrl, fun last a hbehind => ?_⟩
  obtain ⟨hblock, hnone⟩ :=
    options_of_behindUrl hbound hown.opens (sound_of_findCalls hcall).url hbehind
  refine ⟨hblock, hnone, fun hne => ?_⟩
  obtain ⟨b, hb⟩ : ∃ b, HasBlock t last a close b := by
    by_contra hno
    exact hne (hnone (not_exists.1 hno))
  obtain ⟨hlt, inside, heq, hbalanced⟩ := hb.exists_inside
  exact ⟨b, inside, hb, hbehind.openIndex_lt, hlt, (hblock b hb).trans heq, hbalanced⟩

/-- Parentheses in the URL, blanks and a line end around the comma, and an argument more. -/
theorem options_eq_block_third :
    let t := "x; api.post( '/a()' ,\n \x7b d: \x7b e: 1 \x7d \x7d , 2)".toList
    let clients := ["api".toList]
    let call : Call := ⟨3, .post, "/a()".toList, 11, some 42, "\x7b d: \x7b e: 1 \x7d \x7d".toList⟩
    (∀ client ∈ clients, '(' ∉ client) ∧ call ∈ findCalls t clients ∧
      BehindUrl t call.url call.openIndex 18 23 ∧ HasBlock t 18 23 42 37 ∧
      call.options = (t.drop 23).take (37 + 1 - 23) ∧ call.options ≠ [] ∧
      ∃ b inside, HasBlock t 18 23 42 b ∧ call.options = '{' :: (inside ++ ['}']) := by
  intro t clients call
  have hc : ∀ client ∈ clients, '(' ∉ client := by decide
  have hcall : call ∈ findCalls t clients := by decide +kernel
  have hgap : Gap " ,\n ".toList (t.drop 23) := by
    refine ⟨⟨[' '], ['\n', ' '], by decide, by decide, .inl rfl⟩, fun c hc => ?_⟩
    obtain rfl : '{' = c := Option.some.inj hc
    decide
  have hbehind : BehindUrl t call.url call.openIndex 18 23 :=
    ⟨[' '], '\'', _, _, by decide, by decide, hgap, rfl, rfl, rfl⟩
  have hblock : HasBlock t 18 23 42 37 := ⟨by decide, rfl, by decide +kernel, by decide⟩
  obtain ⟨_, hoptions⟩ := options_eq_block hc t call hcall 42 rfl
  obtain ⟨heq, _, hinside⟩ := hoptions 18 23 hbehind
  have hne : call.options ≠ [] := by decide
  obtain ⟨b, inside, hb, _, _, hbraces, _⟩ := hinside hne
  exact ⟨hc, hcall, hbehind, hblock, heq 37 hblock, hne, b, inside, hb, hbraces⟩

end Call
end EndpointManifest
