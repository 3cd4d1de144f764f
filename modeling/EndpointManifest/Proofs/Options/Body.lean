import EndpointManifest.Proofs.Options.Payload
import EndpointManifest.Proofs.Options.Value
import EndpointManifest.Proofs.Recovered

/-! The body of an object literal is the whole value of the first entry for it, whatever the value
holds: a block or a literal ends where it is closed, a call where its arguments are, and a number or
a name before what closes the entry. A block that is never closed gives no body. -/

namespace EndpointManifest.Options

open Text

def IsCallee (name : Text) : Prop :=
  ∃ c tail, name = c :: tail ∧ isNameStart c = true ∧ ∀ d ∈ tail, isPathChar d = true

theorem calleeLength?_eq_some {value : Text} {n : Nat} : calleeLength? value = some n ↔
    ∃ name gap rest, IsCallee name ∧ AllBlank gap ∧ value = name ++ (gap ++ '(' :: rest) ∧
      n = (name ++ gap).length := by
  constructor
  · intro h
    cases value with
    | nil => cases h
    | cons c t =>
      simp only [calleeLength?] at h
      split_ifs at h with hc hopen
      obtain ⟨gap, hgap, hsplit⟩ := skipBlanks_split (t.dropWhile isPathChar)
      obtain ⟨rest, hrest⟩ : ∃ rest, skipBlanks (t.dropWhile isPathChar) = '(' :: rest := by
        obtain ⟨rest, hrest⟩ := List.isPrefixOf_iff_prefix.1 hopen
        exact ⟨rest, hrest.symm⟩
      rw [hrest] at hsplit h
      have ht : c :: t = (c :: t.takeWhile isPathChar) ++ (gap ++ '(' :: rest) := by
        rw [List.cons_append, ← hsplit, List.takeWhile_append_dropWhile]
      refine ⟨c :: t.takeWhile isPathChar, gap, rest, ⟨c, _, rfl, hc, ?_⟩, hgap, ht, ?_⟩
      · exact fun d hd => List.mem_takeWhile_imp hd
      · obtain rfl := Option.some.inj h
        rw [ht]
        simp only [List.length_append, List.length_cons]
        omega
  · rintro ⟨_, gap, rest, ⟨c, tail, rfl, hc, htail⟩, hgap, rfl, rfl⟩
    have hstop : (gap ++ '(' :: rest).dropWhile isPathChar = gap ++ '(' :: rest := by
      cases gap with
      | nil => exact List.dropWhile_cons_of_neg (by decide)
      | cons b gap =>
        have hb := isPathChar_of_isBlank (hgap b (by simp))
        exact List.dropWhile_cons_of_neg (by simp [hb])
    have hafter : skipBlanks ((tail ++ (gap ++ '(' :: rest)).dropWhile isPathChar) = '(' :: rest := by
      rw [List.dropWhile_append_of_pos htail, hstop, skipBlanks_append hgap,
        skipBlanks_cons (by decide)]
    have hopen : startsWith ['('] ('(' :: rest) = true := rfl
    simp only [List.cons_append, calleeLength?, hc, hafter, hopen, if_true, Option.some.injEq,
      List.length_append, List.length_cons]
    omega

theorem clean?_append_blanks {bl : Text} (h : AllBlank bl) (t : Text) :
    clean? (t ++ bl) = clean? t := by
  rw [clean?_eq, clean?_eq, words_append_allBlank h]

theorem cleanUpTo?_append (c : Char) (rest v : Text) :
    cleanUpTo? (c :: rest ++ v) rest.length = clean? (c :: rest) := by
  rw [cleanUpTo?, ← List.length_cons, List.take_left]

theorem value?_block {c : Char} {rest : Text} (hc : c = '{' ∨ c = '[')
    (h : Delimiter.blockEnd? (c :: rest) = some rest.length) (v : Text) :
    value? (c :: rest ++ v) = clean? (c :: rest) := by
  have hend := Delimiter.blockEnd?_append (v := v) h
  rw [← cleanUpTo?_append c rest v]
  simp only [List.cons_append] at hend ⊢
  simp only [value?, if_pos hc, hend, Option.bind_eq_bind, Option.bind_some]

theorem value?_literal {c : Char} {rest : Text}
    (h : Delimiter.literalEnd? (c :: rest) = some rest.length) (v : Text) :
    value? (c :: rest ++ v) = clean? (c :: rest) := by
  have hend := Delimiter.literalEnd?_append (v := v) h
  have hc : ¬ (c = '{' ∨ c = '[') := by
    rintro (rfl | rfl) <;> exact absurd h (by simp [Delimiter.literalEnd?, isQuote])
  rw [← cleanUpTo?_append c rest v]
  simp only [List.cons_append] at hend ⊢
  simp only [value?, if_neg hc, hend]

theorem value?_of_ne {c : Char} (hopener : Delimiter.isOpener c = false)
    (hquote : isQuote c = false) (t : Text) : value? (c :: t) = expression? (c :: t) := by
  have hc : ¬ (c = '{' ∨ c = '[') := by
    rintro (rfl | rfl) <;> exact absurd hopener (by decide)
  simp only [value?, if_neg hc, Delimiter.literalEnd?, hquote, Bool.false_eq_true, if_false]

theorem expression?_call {name gap : Text} (hname : IsCallee name) (hgap : AllBlank gap)
    (rest : Text) : expression? (name ++ (gap ++ '(' :: rest)) =
      (Delimiter.blockEnd? ('(' :: rest)).bind fun n =>
        cleanUpTo? (name ++ (gap ++ '(' :: rest)) ((name ++ gap).length + n) := by
  have hlength := calleeLength?_eq_some.2 ⟨name, gap, rest, hname, hgap, rfl, rfl⟩
  have hdrop : (name ++ (gap ++ '(' :: rest)).drop (name ++ gap).length = '(' :: rest := by
    rw [← List.append_assoc, List.drop_left]
  simp only [expression?, hlength, hdrop, Option.bind_eq_bind]

theorem IsCallee.value?_eq {name : Text} (hname : IsCallee name) (v : Text) :
    value? (name ++ v) = expression? (name ++ v) := by
  obtain ⟨c, tail, rfl, hc, _⟩ := hname
  obtain ⟨hopener, hquote, _⟩ := Key.isNameStart_ne hc
  exact value?_of_ne hopener hquote (tail ++ v)

theorem value?_call {name gap arguments : Text} (hname : IsCallee name) (hgap : AllBlank gap)
    (h : Delimiter.blockEnd? ('(' :: arguments) = some arguments.length) (v : Text) :
    value? (name ++ (gap ++ '(' :: arguments) ++ v) = clean? (name ++ (gap ++ '(' :: arguments)) := by
  have hend := Delimiter.blockEnd?_append (v := v) h
  have hsplit : name ++ (gap ++ '(' :: arguments) ++ v =
      name ++ (gap ++ '(' :: (arguments ++ v)) := by simp
  have hlength : (name ++ gap).length + arguments.length + 1 =
      (name ++ (gap ++ '(' :: arguments)).length := by
    simp only [List.length_append, List.length_cons]
    omega
  rw [List.cons_append] at hend
  rw [hsplit, hname.value?_eq, expression?_call hname hgap, hend, Option.bind_some, ← hsplit,
    cleanUpTo?, hlength, List.take_left]

/-- No call begins among the characters of an atom that its entry ends behind. -/
theorem calleeLength?_atom {u v : Text} (hu : ∀ c ∈ u, isAtomChar c = true)
    (hv : Literal.Closes v) : calleeLength? (u ++ v) = none := by
  refine Option.eq_none_iff_forall_ne_some.2 fun n hn => ?_
  obtain ⟨name, gap, rest, ⟨c, tail, rfl, hc, htail⟩, hgap, hsplit, _⟩ := calleeLength?_eq_some.1 hn
  obtain ⟨bl, d, v, hbl, hd, rfl⟩ := hv
  -- the comma or brace stands before any parenthesis, and in no name
  have hfront : ∀ e ∈ u ++ bl, (e == '(' || e == ',' || e == '}') = false := by
    intro e he
    rcases List.mem_append.1 he with he | he
    · have hatom := hu e he
      rw [Bool.eq_false_iff]
      intro hmark
      simp only [Bool.or_eq_true, beq_iff_eq] at hmark
      rcases hmark with (rfl | rfl) | rfl <;> exact absurd hatom (by decide)
    · have hblank := hbl e he
      rw [Bool.eq_false_iff]
      intro hmark
      simp only [Bool.or_eq_true, beq_iff_eq] at hmark
      rcases hmark with (rfl | rfl) | rfl <;> exact absurd hblank (by decide)
  have hparen : ('(' == '(' || '(' == ',' || '(' == '}') = true := by decide
  rw [← List.append_assoc, ← List.append_assoc (c :: tail)] at hsplit
  rcases split_first hfront hparen hsplit with ⟨_, rfl, _⟩ | ⟨w, hw, _⟩
  · simp at hd
  · have hmem : d ∈ c :: tail ++ gap := by
      rw [hw]
      simp
    rcases List.mem_append.1 hmem with hmem | hmem
    · rcases List.mem_cons.1 hmem with rfl | hmem
      · rcases hd with rfl | rfl <;> exact absurd hc (by decide)
      · have hpath := htail d hmem
        rcases hd with rfl | rfl <;> exact absurd hpath (by decide)
    · have hblank := hgap d hmem
      rcases hd with rfl | rfl <;> exact absurd hblank (by decide)

/-- A number or a name ends before what closes its entry; the blanks there do not count. -/
theorem value?_atom {u v : Text} (hne : u ≠ []) (hu : ∀ c ∈ u, isAtomChar c = true)
    (hv : Literal.Closes v) : value? (u ++ v) = clean? u := by
  have hcallee := calleeLength?_atom hu hv
  obtain ⟨bl, d, v, hbl, hd, rfl⟩ := hv
  obtain ⟨c, t, rfl⟩ := List.exists_cons_of_ne_nil hne
  obtain ⟨_, _, hopener, hquote⟩ := Key.isAtomChar_ne (hu c (by simp))
  let p : Char → Bool := fun c => c != ',' && c != '\n' && c != '}'
  have hrun : run? p (c :: t ++ (bl ++ d :: v)) =
      some (c :: t ++ bl.takeWhile p, bl.dropWhile p ++ d :: v) := by
    refine run?_eq_some.2 ⟨by simp, ?_, ?_, ?_⟩
    · intro e he
      rcases List.mem_append.1 he with he | he
      · have hatom := hu e he
        simp only [p, Bool.and_eq_true, bne_iff_ne]
        refine ⟨⟨?_, ?_⟩, ?_⟩ <;>
        · rintro rfl
          exact absurd hatom (by decide)
      · exact List.mem_takeWhile_imp he
    · intro e he
      cases hdrop : bl.dropWhile p with
      | nil =>
        rw [hdrop] at he
        obtain rfl := Option.some.inj he
        rcases hd with rfl | rfl <;> decide
      | cons b rest =>
        rw [hdrop] at he
        obtain rfl := Option.some.inj he
        have := List.head?_dropWhile_not p bl
        rw [hdrop] at this
        simpa using this
    · rw [List.append_assoc, ← List.append_assoc (bl.takeWhile p), List.takeWhile_append_dropWhile]
  have hblanks : AllBlank (bl.takeWhile p) := fun e he => hbl e (List.takeWhile_subset _ he)
  have hvalue := value?_of_ne hopener hquote (t ++ (bl ++ d :: v))
  rw [← List.cons_append] at hvalue
  rw [hvalue, expression?, hcallee]
  simp only [Option.bind_eq_bind, p] at hrun ⊢
  rw [hrun, Option.bind_some, clean?_append_blanks hblanks]

/-- A value is read whole, a block in parentheses apart. -/
theorem value?_append {value v : Text} (h : IsValue value) (hparen : value.head? ≠ some '(')
    (hv : Literal.Closes v) : value? (value ++ v) = clean? value := by
  cases h with
  | @block c rest h =>
    obtain ⟨closer, hcloser, _⟩ := Option.bind_eq_some_iff.1 h
    have hopener : Delimiter.isOpener c = true := by
      rw [Delimiter.isOpener, hcloser]
      rfl
    rcases Key.isOpener_iff.1 hopener with rfl | hc
    · exact absurd rfl hparen
    · exact value?_block hc h v
  | literal h => exact value?_literal h v
  | atom h => exact value?_atom (by simp) h hv
  | @call c rest arguments gap hstart hname h =>
    exact value?_call ⟨c, rest, rfl, hstart, fun d hd => (hname d hd).2⟩ gap.blank h v

/-- A value that starts with a block, or a call, that is never closed. -/
inductive NeverClosed : Text → Prop where
  | block {c : Char} {rest : Text} (hc : c = '{' ∨ c = '[')
      (h : Delimiter.blockEnd? (c :: rest) = none) : NeverClosed (c :: rest)
  | call {name gap rest : Text} (hname : IsCallee name) (hgap : AllBlank gap)
      (h : Delimiter.blockEnd? ('(' :: rest) = none) : NeverClosed (name ++ (gap ++ '(' :: rest))

theorem NeverClosed.value?_eq_none {value : Text} (h : NeverClosed value) : value? value = none := by
  cases h with
  | block hc h => simp only [value?, if_pos hc, h, Option.bind_eq_bind, Option.bind_none]
  | call hname hgap h => rw [hname.value?_eq, expression?_call hname hgap, h, Option.bind_none]

theorem clean?_value {value : Text} (h : IsValue value) :
    clean? value = some (join [' '] (words value)) := by
  obtain ⟨c, rest, rfl, hc⟩ := Key.head_of_isValue h
  rw [clean?_eq, if_neg (words_ne_nil hc rest)]

theorem body?_of_find {o : Literal} (hplain : ∀ e ∈ o.entries, e.key.IsPlain) {e : Entry}
    (h : o.entries.find? (Entry.isNamed ["data".toList, "body".toList]) = some e)
    (hparen : e.value.head? ≠ some '(') :
    body? o.render = some (join [' '] (words e.value)) := by
  obtain ⟨start, back, hstart, hdrop, hback⟩ := exists_valueStart? hplain h
  unfold body?
  simp only [hstart, hdrop, Option.bind_eq_bind, Option.bind_some]
  rw [value?_append e.isValue hparen hback, clean?_value e.isValue]

theorem body?_of_find_none {o : Literal} (hplain : ∀ e ∈ o.entries, e.key.IsPlain)
    (h : o.entries.find? (Entry.isNamed ["data".toList, "body".toList]) = none) :
    body? o.render = none := by
  have hstart := valueStart?_eq_none hplain h
  unfold body?
  rw [hstart]
  rfl

/-- The body of an object literal is the whole text of the value under the first `data` or `body`,
cleaned, unless that value is a block in parentheses; and it has none if no key has such a name. In
any options text whatsoever a value that is never closed gives none either. -/
theorem body?_exact :
    (∀ o : Literal, (∀ e ∈ o.entries, e.key.IsPlain) →
      (∀ e, o.entries.find? (Entry.isNamed ["data".toList, "body".toList]) = some e →
        e.value.head? ≠ some '(' →
          body? o.render = clean? e.value ∧ clean? e.value = some (join [' '] (words e.value))) ∧
      (o.entries.find? (Entry.isNamed ["data".toList, "body".toList]) = none →
        body? o.render = none)) ∧
    ∀ options start, valueStart? options ["data".toList, "body".toList] = some start →
      NeverClosed (options.drop start) → body? options = none := by
  refine ⟨fun o hplain => ⟨fun e he hparen => ?_, body?_of_find_none hplain⟩, ?_⟩
  · rw [body?_of_find hplain he hparen, clean?_value e.isValue]
    exact ⟨rfl, rfl⟩
  · intro options start hstart h
    unfold body?
    simp only [hstart, Option.bind_eq_bind, Option.bind_some]
    exact h.value?_eq_none

/-- A name that ends in `body`, then a call that holds a key, a comma and a brace; no body at all;
and a call that is never closed. -/
theorem body?_exact_call :
    let blank : Gap := ⟨[' '], allBlank_space⟩
    let empty : Gap := ⟨[], allBlank_nil⟩
    let header : Entry := ⟨blank, .quoted '\'' "x-body".toList, empty, blank, "[1]".toList, empty,
      ⟨.inl rfl, by decide⟩, .block (by decide)⟩
    let payload : Entry := ⟨blank, .quoted '"' "BODY".toList, blank, blank,
      "f.g (\x7b data: ',\x7d' \x7d)".toList, blank, ⟨.inr rfl, by decide⟩,
      @IsValue.call 'f' ".g".toList "\x7b data: ',\x7d' \x7d)".toList blank
        (by decide) (by decide) (by decide)⟩
    let number : Entry := ⟨blank, .bare "data".toList, empty, blank, "-2".toList, empty,
      ⟨'d', _, rfl, by decide, by decide⟩, .atom (by decide)⟩
    let o : Literal := ⟨[header, payload, number], true, blank, by simp⟩
    let o' : Literal := ⟨[header], false, blank, by simp⟩
    o.render = "\x7b 'x-body': [1], \"BODY\" : f.g (\x7b data: ',\x7d' \x7d) , data: -2, \x7d".toList ∧
      (∀ e ∈ o.entries, e.key.IsPlain) ∧
      body? o.render = some "f.g (\x7b data: ',\x7d' \x7d)".toList ∧
      o'.render = "\x7b 'x-body': [1] \x7d".toList ∧ body? o'.render = none ∧
      NeverClosed "f.g(\x7b a: 1 \x7d".toList ∧ body? "\x7b data: f.g(\x7b a: 1 \x7d".toList = none := by
  intro blank empty header payload number o o'
  have hplain : ∀ e ∈ o.entries, e.key.IsPlain := by
    intro e he
    simp only [o, List.mem_cons, List.not_mem_nil, or_false] at he
    rcases he with rfl | rfl | rfl
    · exact ⟨by decide, by decide⟩
    · exact ⟨by decide, by decide⟩
    · trivial
  have hplain' : ∀ e ∈ o'.entries, e.key.IsPlain := by
    intro e he
    obtain rfl := List.mem_singleton.1 he
    exact ⟨by decide, by decide⟩
  have hopen : NeverClosed "f.g(\x7b a: 1 \x7d".toList :=
    @NeverClosed.call "f.g".toList [] "\x7b a: 1 \x7d".toList ⟨'f', _, rfl, by decide, by decide⟩
      allBlank_nil (by decide)
  obtain ⟨hbody, hcleaned⟩ := (body?_exact.1 o hplain).1 payload rfl (by decide)
  exact ⟨by decide, hplain, hbody.trans (hcleaned.trans (by decide)), by decide,
    (body?_exact.1 o' hplain').2 rfl, hopen, body?_exact.2 _ 8 (by decide +kernel) hopen⟩

end EndpointManifest.Options
