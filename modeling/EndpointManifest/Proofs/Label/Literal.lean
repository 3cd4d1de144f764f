import EndpointManifest.Proofs.Delimiter.Escape
import EndpointManifest.Proofs.Label.Nearest

/-! Titles and string literals. A title ends at the next quote of its kind, the literal that it
stands in at the next one that no backslash escapes. So the two are the same exactly when the
literal has no quote of its own kind inside. -/

namespace EndpointManifest

open Text

namespace Text

variable {α : Type} {p : Pattern α}

theorem mem_findAll_front {t : Text} (ht : t ≠ []) {a : α} :
    ⟨0, a⟩ ∈ findAll p t ↔ ∃ after, p none t = some (a, after) := by
  obtain ⟨c, t, rfl⟩ := List.exists_cons_of_ne_nil ht
  constructor
  · intro h
    obtain ⟨u, v, after, hsplit, hstart, hmatch⟩ := match_of_mem_findAll h
    obtain rfl := List.eq_nil_of_length_eq_zero hstart.symm
    exact ⟨after, by rwa [hsplit]⟩
  · rintro ⟨after, h⟩
    rw [findAll, findAllFrom, h]
    exact .head _

end Text

namespace Label

variable {IsName : Text → Prop} {t : Text} {label : Label} {start : Nat}

/-- The label is declared at its offset, and the quote before its title stands at `start`. -/
def QuotedAt (IsName : Text → Prop) (t : Text) (label : Label) (start : Nat) : Prop :=
  ∃ u name bl bl' q rest, label.offset = u.length ∧ IsName name ∧ AllBlank bl ∧ AllBlank bl' ∧
    isQuote q = true ∧ q ∉ label.title ∧ start = (u ++ (name ++ (bl ++ '(' :: bl'))).length ∧
    t = u ++ (name ++ (bl ++ '(' :: bl')) ++ q :: (label.title ++ q :: rest)

theorem Declared.exists_quotedAt (h : Declared IsName t label) :
    ∃ start, QuotedAt IsName t label start := by
  obtain ⟨u, name, bl, bl', bl'', q, rest, hoffset, hname, hbl, hbl', -, hq, -, hmem, -, rfl⟩ := h
  refine ⟨_, u, name, bl, bl', q, bl'' ++ ',' :: rest, hoffset, hname, hbl, hbl', hq, hmem, rfl, ?_⟩
  simp

/-- The quote behind a title closes the literal unless a backslash escapes it. -/
theorem QuotedAt.closingQuote?_iff (h : QuotedAt IsName t label start) :
    Delimiter.closingQuote? t start = some (start + (label.title.length + 1)) ↔
      Even (Delimiter.slashes label.title) := by
  obtain ⟨u, name, bl, bl', q, rest, -, -, -, -, hq, hmem, rfl, rfl⟩ := h
  rw [Delimiter.closingQuote?_append, Delimiter.literalEnd?_of_not_mem hq hmem]

structure IsLineLiteral (q : Char) (inside : Text) : Prop where
  closes : Delimiter.closingQuote? (q :: (inside ++ [q])) 0 = some (inside.length + 1)
  ne_nil : inside ≠ []
  one_line : '\n' ∉ inside

namespace IsLineLiteral

variable {q : Char} {inside : Text}

theorem isQuote_and_escaped (h : IsLineLiteral q inside) :
    isQuote q = true ∧ Delimiter.Escaped q [] inside := by
  have hend : Delimiter.literalEnd? (q :: (inside ++ [q])) = some (inside.length + 1) := by
    refine (Delimiter.closingQuote?_append (u := [])).1 ?_
    simpa using h.closes
  obtain ⟨q', u, v, hq, hsplit, hlength, -, hescaped⟩ := Delimiter.literalEnd?_eq_some.1 hend
  obtain ⟨rfl, hsplit⟩ := List.cons.inj hsplit
  obtain ⟨rfl, -⟩ := List.append_inj hsplit (Nat.succ.inj hlength)
  exact ⟨hq, hescaped⟩

theorem isQuote (h : IsLineLiteral q inside) : isQuote q = true := h.isQuote_and_escaped.1

theorem front_ne_nil (h : IsLineLiteral q inside) {front back : Text}
    (hsplit : inside = front ++ q :: back) : front ≠ [] := by
  rintro rfl
  exact h.isQuote_and_escaped.2 [] back hsplit Even.zero

end IsLineLiteral

theorem testPattern_name {name : Text} (hname : name ∈ testNames) (t : Text) :
    testPattern none (name ++ '(' :: t) = titleArgument? ('(' :: t) := by
  simp only [testNames, List.map_cons, List.map_nil, List.mem_cons, List.not_mem_nil,
    or_false] at hname
  rcases hname with rfl | rfl | rfl | rfl | rfl | rfl <;> rfl

theorem titleArgument?_quote {q : Char} (hq : isQuote q = true) {t title after : Text} :
    titleArgument? ('(' :: q :: t) = some (title, after) ↔
      ∃ rest, lineLiteral? (q :: t) = some (title, rest) ∧ afterMark? ',' rest = some after := by
  have hparen : afterMark? '(' ('(' :: q :: t) = some (q :: t) :=
    (afterMark?_eq_some (by decide)).2 ⟨[], allBlank_nil, rfl⟩
  simp only [titleArgument?, hparen, Option.bind_eq_bind, Option.bind_some,
    skipBlanks_cons (isBlank_quote hq), Option.bind_eq_some_iff, Option.pure_def, Option.some.injEq,
    Prod.exists, Prod.mk.injEq]
  constructor
  · rintro ⟨_, rest, hlit, _, hcomma, rfl, rfl⟩
    exact ⟨rest, hlit, hcomma⟩
  · rintro ⟨rest, hlit, hcomma⟩
    exact ⟨title, rest, hlit, after, hcomma, rfl, rfl⟩

/-- What is a title where the first argument is a literal: all that is inside, or, if the literal
has its own quote inside, what stands before it, provided that a comma follows. -/
def IsCutAt (q : Char) (inside title : Text) : Prop :=
  title = inside ∧ q ∉ inside ∨
    ∃ bl back, AllBlank bl ∧ q ∉ title ∧ inside = title ++ q :: (bl ++ ',' :: back)

theorem isCutAt_whole {q : Char} {inside : Text} : IsCutAt q inside inside ↔ q ∉ inside := by
  refine ⟨?_, fun h => .inl ⟨rfl, h⟩⟩
  rintro (⟨-, h⟩ | ⟨_, _, -, h, -⟩)
  · exact h
  · exact h

namespace IsLineLiteral

variable {q : Char} {inside title rest : Text}

/-- The literal as a title reader takes it, and the text that it leaves. -/
theorem lineLiteral?_eq_some (h : IsLineLiteral q inside) {back : Text} :
    lineLiteral? (q :: (inside ++ q :: rest)) = some (title, back) ↔
      q ∉ title ∧ (title = inside ∧ back = rest ∨
        ∃ w, inside = title ++ q :: w ∧ back = w ++ q :: rest) := by
  rw [Text.lineLiteral?_eq_some]
  constructor
  · rintro ⟨q', -, -, hline, hsplit⟩
    obtain ⟨rfl, hsplit⟩ := List.cons.inj hsplit
    have hmem : q ∉ title := fun hmem => (hline q hmem).1 rfl
    have hmark : ∀ c ∈ title, (c == q) = false := fun c hc => beq_false_of_ne (hline c hc).1
    refine ⟨hmem, ?_⟩
    rcases split_first hmark (beq_self_eq_true q) hsplit.symm with ⟨rfl, -, rfl⟩ | ⟨w, rfl, rfl⟩
    · exact .inl ⟨rfl, rfl⟩
    · exact .inr ⟨w, rfl, rfl⟩
  · rintro ⟨hmem, ⟨rfl, rfl⟩ | ⟨w, hinside, rfl⟩⟩
    · refine ⟨q, h.isQuote, h.ne_nil, fun c hc => ⟨?_, ?_⟩, rfl⟩
      · rintro rfl
        exact hmem hc
      · rintro rfl
        exact h.one_line hc
    · refine ⟨q, h.isQuote, h.front_ne_nil hinside, fun c hc => ⟨?_, ?_⟩, ?_⟩
      · rintro rfl
        exact hmem hc
      · rintro rfl
        exact h.one_line (by rw [hinside]; simp [hc])
      · rw [hinside]
        simp

/-- The test is found under what the literal is cut to, if that is a title. -/
theorem testPattern_isSome (h : IsLineLiteral q inside) {name : Text} (hname : name ∈ testNames) :
    (∃ after, testPattern none (name ++ '(' :: (q :: (inside ++ [q]) ++ ',' :: rest)) =
      some (title, after)) ↔ IsCutAt q inside title := by
  have hsplit : q :: (inside ++ [q]) ++ ',' :: rest = q :: (inside ++ q :: (',' :: rest)) := by simp
  rw [hsplit, testPattern_name hname]
  simp only [titleArgument?_quote h.isQuote, h.lineLiteral?_eq_some,
    afterMark?_eq_some (c := ',') (by decide)]
  constructor
  · rintro ⟨after, _, ⟨hmem, ⟨rfl, rfl⟩ | ⟨w, hinside, rfl⟩⟩, bl, hbl, hcomma⟩
    · exact .inl ⟨rfl, hmem⟩
    · have hmark : ∀ c ∈ bl, (!isBlank c) = false := by
        intro c hc
        rw [hbl c hc]
        rfl
      have hq : (!isBlank q) = true := by rw [isBlank_quote h.isQuote]; rfl
      rcases split_first hmark hq hcomma.symm with ⟨-, rfl, -⟩ | ⟨back, rfl, -⟩
      · exact absurd h.isQuote (by decide)
      · exact .inr ⟨bl, back, hbl, hmem, hinside⟩
  · rintro (⟨rfl, hmem⟩ | ⟨bl, back, hbl, hmem, hinside⟩)
    · exact ⟨rest, _, ⟨hmem, .inl ⟨rfl, rfl⟩⟩, [], allBlank_nil, rfl⟩
    · refine ⟨back ++ q :: ',' :: rest, _, ⟨hmem, .inr ⟨_, hinside, rfl⟩⟩, bl, hbl, ?_⟩
      rw [List.append_assoc, List.cons_append]

end IsLineLiteral

end Label

namespace LabelIndex

open Label

theorem mem_titles_front {t title : Text} (ht : t ≠ []) :
    ⟨0, title⟩ ∈ (ofSource t).titles ↔ ∃ after, testPattern none t = some (title, after) := by
  rw [← mem_findAll_front ht]
  constructor
  · intro h
    obtain ⟨⟨start, value⟩, hf, hlabel⟩ := List.mem_map.1 h
    obtain ⟨hstart, rfl⟩ := Label.mk.inj hlabel
    obtain rfl : start = 0 := Int.ofNat.inj hstart
    exact hf
  · exact fun h => List.mem_map.2 ⟨_, h, rfl⟩

theorem zero_le_offset {t : Text} {label : Label} (h : label ∈ (ofSource t).titles) :
    0 ≤ label.offset := by
  obtain ⟨f, -, rfl⟩ := List.mem_map.1 h
  exact Int.natCast_nonneg f.start

/-- Up to the next test a source has the title recorded at its front, or none. -/
theorem nearest?_front {t : Text} {offset : Int} (hoffset : 0 ≤ offset)
    (hnext : ∀ label ∈ (ofSource t).titles, 0 < label.offset → offset < label.offset)
    (title : Text) :
    (ofSource t).nearest? offset = some title ↔ ⟨0, title⟩ ∈ (ofSource t).titles := by
  rw [nearest?_eq_some (ofSource_pairwise t)]
  have hfront : ∀ label ∈ (ofSource t).titles, label.offset ≤ offset → label.offset = 0 := by
    intro label hlabel hle
    have := hnext label hlabel
    have := zero_le_offset hlabel
    omega
  constructor
  · rintro ⟨label, hlabel, rfl, hle, -⟩
    rw [← hfront label hlabel hle]
    exact hlabel
  · intro h
    exact ⟨_, h, rfl, hoffset, fun other hother hle => Int.le_of_eq (hfront other hother hle)⟩

/-- The quote behind a title closes the literal that the title stands in iff the title ends in an
even number of backslashes. A test whose first argument is a literal on one line is recorded under
what is inside iff the literal has no quote of its own kind inside; if it has one, then under what
stands before the first such quote if a comma follows it, and under nothing else. -/
theorem titles_end_iff (t : Text) :
    (∀ label ∈ (ofSource t).titles, ∃ start, QuotedAt (· ∈ testNames) t label start ∧
      (Delimiter.closingQuote? t start = some (start + (label.title.length + 1)) ↔
        Even (Delimiter.slashes label.title))) ∧
    ∀ name ∈ testNames, ∀ q inside rest, IsLineLiteral q inside →
      t = name ++ '(' :: (q :: (inside ++ [q]) ++ ',' :: rest) →
        (⟨0, inside⟩ ∈ (ofSource t).titles ↔ q ∉ inside) ∧
        (∀ title, ⟨0, title⟩ ∈ (ofSource t).titles ↔ IsCutAt q inside title) ∧
        ∀ offset : Int, 0 ≤ offset →
          (∀ label ∈ (ofSource t).titles, 0 < label.offset → offset < label.offset) →
            ((ofSource t).nearest? offset = some inside ↔ q ∉ inside) := by
  constructor
  · intro label hlabel
    obtain ⟨start, hstart⟩ := (declared_title hlabel).exists_quotedAt
    exact ⟨start, hstart, hstart.closingQuote?_iff⟩
  · rintro name hname q inside rest hliteral rfl
    have hcut : ∀ title, ⟨0, title⟩ ∈ (ofSource (name ++ '(' :: (q :: (inside ++ [q]) ++
        ',' :: rest))).titles ↔ IsCutAt q inside title := fun title =>
      (mem_titles_front (by simp)).trans (hliteral.testPattern_isSome hname)
    have hwhole := (hcut inside).trans isCutAt_whole
    refine ⟨hwhole, hcut, fun offset hoffset hnext => ?_⟩
    exact (nearest?_front hoffset hnext inside).trans hwhole

/-- A comma behind an escaped quote: the title is cut there, and its quote does not close the
literal. -/
theorem titles_end_iff_comma :
    let t := "test.only('a\\', b', 0)".toList
    let inside := "a\\', b".toList
    let label : Label := ⟨0, "a\\".toList⟩
    IsLineLiteral '\'' inside ∧ label ∈ (ofSource t).titles ∧ ⟨0, inside⟩ ∉ (ofSource t).titles ∧
      ∃ start, QuotedAt (· ∈ testNames) t label start ∧
        Delimiter.closingQuote? t start ≠ some (start + (label.title.length + 1)) := by
  intro t inside label
  have hliteral : IsLineLiteral '\'' inside := ⟨by decide, by decide, by decide⟩
  obtain ⟨hends, hrecorded⟩ := titles_end_iff t
  obtain ⟨hwhole, hcut, -⟩ :=
    hrecorded "test.only".toList (by decide) '\'' inside " 0)".toList hliteral rfl
  have hlabel : label ∈ (ofSource t).titles :=
    (hcut _).2 (.inr ⟨[], " b".toList, by decide, by decide, rfl⟩)
  obtain ⟨start, hstart, hclose⟩ := hends label hlabel
  refine ⟨hliteral, hlabel, fun h => absurd (hwhole.1 h) (by decide), start, hstart, fun h => ?_⟩
  exact absurd (hclose.1 h) (by decide)

/-- An escaped quote without a comma: the test has no title at all. -/
theorem titles_end_iff_apostrophe :
    let t := "it('it\\'s fine', () => \x7b\x7d);".toList
    IsLineLiteral '\'' "it\\'s fine".toList ∧ (ofSource t).titles = [] := by
  intro t
  exact ⟨⟨by decide, by decide, by decide⟩, by decide +kernel⟩

end LabelIndex
end EndpointManifest
