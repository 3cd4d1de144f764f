import EndpointManifest.Proofs.Assertion
import EndpointManifest.Proofs.Assertion.Language
import EndpointManifest.Proofs.Text.CharClass

/-! What is asserted about: a dotted name, with `await` before it or not. Its readers take the longest
run of a name, and `await` wherever it stands; both are right because up to the next parenthesis a
text can be read in one way only. -/

namespace EndpointManifest.Assertion

open Text
open scoped Computability

variable {t rest : Text}

/-! ### Up to the next parenthesis -/

def isParen (c : Char) : Bool := c == '(' || c == ')'

theorem not_blank_of_isParen {c : Char} (h : isParen c = true) : isBlank c = false := by
  simp only [isParen, Bool.or_eq_true, beq_iff_eq] at h
  rcases h with rfl | rfl <;> decide

theorem not_paren_of_isBlank {c : Char} (h : isBlank c = true) : isParen c = false := by
  refine Bool.eq_false_iff.2 fun hparen => ?_
  rw [not_blank_of_isParen hparen] at h
  cases h

def AtParen (t : Text) : Prop := ∃ bl c x, AllBlank bl ∧ isParen c = true ∧ t = bl ++ c :: x

/-- A text without parentheses, blank at neither end. -/
structure Solid (w : Text) : Prop where
  no_paren : ∀ c ∈ w, isParen c = false
  first : ∃ c x, w = c :: x ∧ isBlank c = false
  last : ∃ x c, w = x ++ [c] ∧ isBlank c = false

theorem blanks_unique {x y bl bl' : Text} {c d : Char} (hc : isBlank c = false)
    (hd : isBlank d = false) (hbl : AllBlank bl) (hbl' : AllBlank bl')
    (h : x ++ c :: bl = y ++ d :: bl') : x = y ∧ c = d ∧ bl = bl' := by
  have hback : bl.reverse ++ c :: x.reverse = bl'.reverse ++ d :: y.reverse := by
    simpa using congrArg List.reverse h
  have hmark : ∀ e ∈ bl.reverse, (!isBlank e) = false := by
    intro e he
    rw [hbl e (List.mem_reverse.1 he)]
    rfl
  rcases split_first hmark (by rw [hd]; rfl) hback with ⟨hbls, rfl, hxy⟩ | ⟨w, hbls, _⟩
  · exact ⟨(List.reverse_inj.1 hxy).symm, rfl, (List.reverse_inj.1 hbls).symm⟩
  · have := hbl' c (List.mem_reverse.1 (by rw [hbls]; simp))
    rw [hc] at this
    cases this

theorem Solid.not_paren {w bl : Text} (h : Solid w) (hbl : AllBlank bl) :
    ∀ c ∈ w ++ bl, isParen c = false := by
  intro c hc
  rcases List.mem_append.1 hc with hc | hc
  · exact h.no_paren c hc
  · exact not_paren_of_isBlank (hbl c hc)

/-- Up to the next parenthesis a text is one solid text and blanks, in one way. -/
theorem Solid.unique {x y u : Text} (hx : Solid x) (hy : Solid y) (ht : AtParen t)
    (hu : AtParen u) (h : x ++ t = y ++ u) : x = y ∧ t = u := by
  obtain ⟨bl, c, v, hbl, hc, rfl⟩ := ht
  obtain ⟨bl', d, v', hbl', hd, rfl⟩ := hu
  rw [← List.append_assoc, ← List.append_assoc] at h
  rcases split_first (hx.not_paren hbl) hd h with ⟨hfront, rfl, rfl⟩ | ⟨w, hfront, _⟩
  · obtain ⟨z, e, rfl, he⟩ := hx.last
    obtain ⟨z', e', rfl, he'⟩ := hy.last
    simp only [List.append_assoc, List.singleton_append] at hfront
    obtain ⟨rfl, rfl, rfl⟩ := blanks_unique he' he hbl' hbl hfront
    exact ⟨rfl, rfl⟩
  · have := hy.not_paren hbl' c (by rw [hfront]; simp)
    rw [hc] at this
    cases this

theorem Solid.flush {w : Text} (h : Solid w) (rest : Text) : Flush (w ++ rest) := by
  obtain ⟨c, x, rfl, hc⟩ := h.first
  exact flush_cons hc _

theorem Solid.prepend {x w : Text} (h : Solid w) (hx : ∀ c ∈ x, isParen c = false)
    (hfirst : ∀ c, x.head? = some c → isBlank c = false) : Solid (x ++ w) where
  no_paren := by
    intro c hc
    rcases List.mem_append.1 hc with hc | hc
    · exact hx c hc
    · exact h.no_paren c hc
  first := by
    cases x with
    | nil => exact h.first
    | cons c x => exact ⟨c, x ++ w, rfl, hfirst c rfl⟩
  last := by
    obtain ⟨y, c, rfl, hc⟩ := h.last
    exact ⟨x ++ y, c, by simp, hc⟩

theorem solid_of_sameLetters {name w : Text} (hne : name ≠ [])
    (hname : ∀ c ∈ name, isAsciiLetter c = true) (h : SameLetters name w) : Solid w := by
  have hlatin := h.latin hname
  have hwne : w ≠ [] := by
    rintro rfl
    cases h
    exact hne rfl
  refine ⟨fun c hc => ?_, ?_, ?_⟩
  · refine Bool.eq_false_iff.2 fun hparen => ?_
    have hc := hlatin c hc
    simp only [isParen, Bool.or_eq_true, beq_iff_eq] at hparen
    rcases hparen with rfl | rfl <;> exact absurd hc (by decide)
  · obtain ⟨c, x, rfl⟩ := List.exists_cons_of_ne_nil hwne
    exact ⟨c, x, rfl, isBlank_latin (hlatin c (by simp))⟩
  · obtain rfl | ⟨x, c, rfl⟩ := List.eq_nil_or_concat w
    · exact absurd rfl hwne
    · exact ⟨x, c, by simp, isBlank_latin (hlatin c (by simp))⟩

theorem solid_awaited {w s : Text} (hw : w ∈ awaited) (hs : Solid s) : Solid (w ++ s) := by
  rcases mem_optional.1 hw with rfl | ⟨x, hx, bl, ⟨_, hbl⟩, rfl⟩
  · exact hs
  · have hawait := solid_of_sameLetters (by decide) (by decide) hx
    refine hs.prepend (hawait.not_paren hbl) fun c hc => ?_
    obtain ⟨d, y, rfl, hd⟩ := hawait.first
    obtain rfl := Option.some.inj hc
    exact hd

/-! ### The subject -/

theorem AtParen.not_pathChar (h : AtParen t) : ∀ c, t.head? = some c → isPathChar c = false := by
  obtain ⟨bl, d, x, hbl, hd, rfl⟩ := h
  intro c hc
  cases bl with
  | nil =>
    obtain rfl := Option.some.inj hc
    simp only [isParen, Bool.or_eq_true, beq_iff_eq] at hd
    rcases hd with rfl | rfl <;> decide
  | cons b bl =>
    obtain rfl := Option.some.inj hc
    exact isPathChar_of_isBlank (hbl b (by simp))

theorem AtParen.no_point (h : AtParen t) : afterMark? '.' t = none := by
  obtain ⟨bl, d, x, hbl, hd, rfl⟩ := h
  refine afterMark?_eq_none hbl (not_blank_of_isParen hd) ?_ x
  rintro rfl
  exact absurd hd (by decide)

theorem isNameChar_of_sameLetters {name w : Text} (hname : ∀ c ∈ name, isAsciiLetter c = true)
    (h : SameLetters name w) : ∀ c ∈ w, isNameChar c = true := by
  intro c hc
  simp [isNameChar, isWord_of_isLatinLetter (h.latin hname c hc)]

theorem withoutEnding?_eq_some {name object : Text} :
    withoutEnding? ('.' :: name) t = some object ↔
      ∃ w, SameLetters name w ∧ t = object ++ '.' :: w := by
  rw [withoutEnding?, Option.map_eq_some_iff]
  simp only [afterAnyCase?_eq_some]
  constructor
  · rintro ⟨front, ⟨word, hword, ht⟩, rfl⟩
    have hback := List.rel_reverse hword
    rw [List.reverse_reverse] at hback
    cases hw : word.reverse with
    | nil =>
      rw [hw] at hback
      cases hback
    | cons c w =>
      rw [hw] at hback
      obtain ⟨hpoint, hname⟩ := List.forall₂_cons.1 hback
      obtain rfl := eq_of_sameLetter_mark (by decide) (by decide) hpoint
      refine ⟨w, hname, ?_⟩
      rw [← List.reverse_reverse t, ht, List.reverse_append, hw]
  · rintro ⟨w, hw, rfl⟩
    refine ⟨object.reverse, ⟨('.' :: w).reverse, List.rel_reverse (.cons (by decide) hw), ?_⟩, ?_⟩
    · simp
    · simp

theorem mem_pointed {p : Char → Bool} {w : Text} : w ∈ pointed p ↔
    ∃ n bl bl', n ≠ [] ∧ (∀ c ∈ n, p c = true) ∧ AllBlank bl ∧ AllBlank bl' ∧
      w = n ++ (bl ++ '.' :: bl') := by
  constructor
  · rintro ⟨n, ⟨hne, hn⟩, _, ⟨_, ⟨bl, hbl, rfl⟩, bl', hbl', rfl⟩, rfl⟩
    exact ⟨n, bl, bl', hne, hn, hbl, hbl', by simp⟩
  · rintro ⟨n, bl, bl', hne, hn, hbl, hbl', rfl⟩
    exact ⟨n, ⟨hne, hn⟩, _, ⟨bl ++ ['.'], ⟨bl, hbl, rfl⟩, bl', hbl', rfl⟩, by simp⟩

theorem mem_member {name w : Text} : w ∈ member name ↔
    ∃ path bl bl' n, path ≠ [] ∧ (∀ c ∈ path, isPathChar c = true) ∧ AllBlank bl ∧ AllBlank bl' ∧
      SameLetters name n ∧ w = path ++ (bl ++ '.' :: (bl' ++ n)) := by
  constructor
  · rintro ⟨_, hpointed, n, hn, rfl⟩
    obtain ⟨path, bl, bl', hne, hpath, hbl, hbl', rfl⟩ := mem_pointed.1 hpointed
    exact ⟨path, bl, bl', n, hne, hpath, hbl, hbl', hn, by simp⟩
  · rintro ⟨path, bl, bl', n, hne, hpath, hbl, hbl', hn, rfl⟩
    exact ⟨_, mem_pointed.2 ⟨path, bl, bl', hne, hpath, hbl, hbl', rfl⟩, n, hn, by simp⟩

theorem isPathChar_of_sameLetters {name w : Text} (hname : ∀ c ∈ name, isAsciiLetter c = true)
    (h : SameLetters name w) : ∀ c ∈ w, isPathChar c = true := by
  intro c hc
  simp [isPathChar, isNameChar_of_sameLetters hname h c hc]

theorem point_not_mem_of_sameLetters {name w : Text} (hname : ∀ c ∈ name, isAsciiLetter c = true)
    (hw : SameLetters name w) : '.' ∉ w :=
  fun h => absurd (hw.latin hname _ h) (by decide)

theorem not_paren_of_isPathChar {c : Char} (h : isPathChar c = true) : isParen c = false := by
  refine Bool.eq_false_iff.2 fun hparen => ?_
  simp only [isParen, Bool.or_eq_true, beq_iff_eq] at hparen
  rcases hparen with rfl | rfl <;> exact absurd h (by decide)

theorem not_blank_of_isPathChar {c : Char} (h : isPathChar c = true) : isBlank c = false := by
  refine Bool.eq_false_iff.2 fun hblank => ?_
  rw [isPathChar_of_isBlank hblank] at h
  cases h

theorem solid_pointed {p : Char → Bool} {w x : Text} (hp : ∀ c, p c = true → isPathChar c = true)
    (hw : w ∈ pointed p) (hx : Solid x) : Solid (w ++ x) := by
  obtain ⟨n, bl, bl', hne, hn, hbl, hbl', rfl⟩ := mem_pointed.1 hw
  refine hx.prepend (fun c hc => ?_) fun c hc => ?_
  · rcases List.mem_append.1 hc with hc | hc
    · exact not_paren_of_isPathChar (hp c (hn c hc))
    rcases List.mem_append.1 hc with hc | hc
    · exact not_paren_of_isBlank (hbl c hc)
    rcases List.mem_cons.1 hc with rfl | hc
    · rfl
    · exact not_paren_of_isBlank (hbl' c hc)
  · obtain ⟨d, n, rfl⟩ := List.exists_cons_of_ne_nil hne
    obtain rfl := Option.some.inj hc
    exact not_blank_of_isPathChar (hp d (hn d (by simp)))

theorem member?_word {name : Text} (h : member? name t = some rest) :
    ∃ w ∈ member name, t = w ++ rest := by
  simp only [member?, Option.bind_eq_bind, Option.bind_eq_some_iff, Prod.exists, orElse_eq_some,
    Option.guard_eq_some', exists_const, Bool.and_eq_true, decide_eq_true_eq] at h
  obtain ⟨path, u, hrun, h⟩ := h
  obtain ⟨hne, hpath, _, rfl⟩ := run?_eq_some.1 hrun
  rcases h with ⟨v, hpoint, h⟩ | ⟨_, ⟨⟨hpoint, hlong⟩, h⟩ | ⟨_, object, hobject, hone, h⟩⟩
  · obtain ⟨bl, hbl, rfl⟩ := (afterMark?_eq_some (by decide)).1 hpoint
    obtain ⟨bl', hbl', hv⟩ := skipBlanks_split v
    obtain ⟨n, hn, hv'⟩ := afterAnyCase?_eq_some.1 h
    refine ⟨_, mem_member.2 ⟨path, bl, bl', n, hne, hpath, hbl, hbl', hn, rfl⟩, ?_⟩
    rw [hv, hv']
    simp
  · obtain ⟨bl, hbl, hu⟩ := skipBlanks_split u
    obtain ⟨n, hn, hu'⟩ := afterAnyCase?_eq_some.1 h
    obtain rfl | ⟨object, c, rfl⟩ := List.eq_nil_or_concat path
    · exact absurd rfl hne
    rw [List.concat_eq_append] at hpath hpoint hlong ⊢
    rw [endsWith_single, beq_iff_eq] at hpoint
    subst hpoint
    have hone : object ≠ [] := by
      rintro rfl
      simp at hlong
    refine ⟨_, mem_member.2 ⟨object, [], bl, n, hone, fun c hc => hpath c (by simp [hc]),
      allBlank_nil, hbl, hn, rfl⟩, ?_⟩
    rw [hu, hu']
    simp
  · obtain rfl := Option.some.inj h
    obtain ⟨n, hn, rfl⟩ := withoutEnding?_eq_some.1 hobject
    have hone : object ≠ [] := by simpa using hone
    exact ⟨_, mem_member.2 ⟨object, [], [], n, hone, fun c hc => hpath c (by simp [hc]),
      allBlank_nil, allBlank_nil, hn, rfl⟩, by simp⟩

/-- The three ways on from the longest dotted name. -/
theorem member?_of_run {name path u : Text} (h : run? isPathChar t = some (path, u)) :
    member? name t =
      ((do afterAnyCase? name (skipBlanks (← afterMark? '.' u))) <|> (do
        guard (endsWith ['.'] path && path.length > 1)
        afterAnyCase? name (skipBlanks u)) <|> (do
        let object ← withoutEnding? ('.' :: name) path
        guard !object.isEmpty
        return u)) := by
  rw [member?, h]
  rfl

section Member

variable {name : Text} (hne : name ≠ []) (hname : ∀ c ∈ name, isAsciiLetter c = true)
include hne hname

theorem solid_member : ∀ w ∈ member name, Solid w := by
  rintro _ ⟨w, hw, n, hn, rfl⟩
  exact solid_pointed (fun _ h => h) hw (solid_of_sameLetters hne hname hn)

section Forms

variable {path bl n : Text} (hpne : path ≠ []) (hpath : ∀ c ∈ path, isPathChar c = true)
  (hn : SameLetters name n)
include hpne hpath hn

theorem member?_blank_point (hbl : AllBlank bl) (hblank : bl ≠ []) {bl' : Text}
    (hbl' : AllBlank bl') (rest : Text) :
    member? name (path ++ (bl ++ '.' :: (bl' ++ (n ++ rest)))) = some rest := by
  have hrun : run? isPathChar (path ++ (bl ++ '.' :: (bl' ++ (n ++ rest)))) =
      some (path, bl ++ '.' :: (bl' ++ (n ++ rest))) := by
    refine run?_eq_some.2 ⟨hpne, hpath, fun c hc => ?_, rfl⟩
    obtain ⟨b, bl, rfl⟩ := List.exists_cons_of_ne_nil hblank
    obtain rfl := Option.some.inj hc
    exact isPathChar_of_isBlank (hbl b (by simp))
  have hmark : afterMark? '.' (bl ++ '.' :: (bl' ++ (n ++ rest))) = some (bl' ++ (n ++ rest)) :=
    (afterMark?_eq_some (by decide)).2 ⟨bl, hbl, rfl⟩
  have hskip : skipBlanks (bl' ++ (n ++ rest)) = n ++ rest := by
    rw [skipBlanks_append hbl', (solid_of_sameLetters hne hname hn).flush rest]
  have hread : afterAnyCase? name (n ++ rest) = some rest := afterAnyCase?_eq_some.2 ⟨n, hn, rfl⟩
  rw [member?_of_run hrun, hmark]
  simp [hskip, hread]

theorem member?_point_blank (hbl : AllBlank bl) (hblank : bl ≠ []) (rest : Text) :
    member? name (path ++ '.' :: (bl ++ (n ++ rest))) = some rest := by
  have hsolid := solid_of_sameLetters hne hname hn
  have hrun : run? isPathChar (path ++ '.' :: (bl ++ (n ++ rest))) =
      some (path ++ ['.'], bl ++ (n ++ rest)) := by
    refine run?_eq_some.2 ⟨by simp, List.forall_mem_append.2 ⟨hpath, by decide⟩, fun c hc => ?_,
      by simp⟩
    obtain ⟨b, bl, rfl⟩ := List.exists_cons_of_ne_nil hblank
    obtain rfl := Option.some.inj hc
    exact isPathChar_of_isBlank (hbl b (by simp))
  have hmark : afterMark? '.' (bl ++ (n ++ rest)) = none := by
    obtain ⟨d, x, rfl, hd⟩ := hsolid.first
    refine afterMark?_eq_none hbl hd ?_ _
    rintro rfl
    exact point_not_mem_of_sameLetters hname hn (.head x)
  have hskip : skipBlanks (bl ++ (n ++ rest)) = n ++ rest := by
    rw [skipBlanks_append hbl, hsolid.flush rest]
  have hread : afterAnyCase? name (n ++ rest) = some rest := afterAnyCase?_eq_some.2 ⟨n, hn, rfl⟩
  have hlong : 0 < path.length := List.length_pos_iff.2 hpne
  rw [member?_of_run hrun, hmark, endsWith_single, hskip, hread]
  simp [hlong, guard]

theorem member?_point (hrest : AtParen rest) :
    member? name (path ++ '.' :: (n ++ rest)) = some rest := by
  have hrun : run? isPathChar (path ++ '.' :: (n ++ rest)) = some (path ++ '.' :: n, rest) := by
    refine run?_eq_some.2 ⟨by simp, ?_, hrest.not_pathChar, by simp⟩
    exact List.forall_mem_append.2 ⟨hpath,
      List.forall_mem_cons.2 ⟨by decide, isPathChar_of_sameLetters hname hn⟩⟩
  have hlast : endsWith ['.'] (path ++ '.' :: n) = false := by
    obtain ⟨x, c, rfl, _⟩ := (solid_of_sameLetters hne hname hn).last
    rw [← List.cons_append, ← List.append_assoc, endsWith_single, beq_eq_false_iff_ne]
    rintro rfl
    exact point_not_mem_of_sameLetters hname hn (List.mem_concat_self ..)
  have hobject : withoutEnding? ('.' :: name) (path ++ '.' :: n) = some path :=
    withoutEnding?_eq_some.2 ⟨n, hn, rfl⟩
  rw [member?_of_run hrun, hrest.no_point, hlast, hobject]
  simp [hpne, guard]

end Forms

theorem takes_member : Takes AtParen (member? name) (member name) := by
  intro t rest hrest
  rw [begins_eq]
  refine ⟨member?_word, ?_⟩
  rintro ⟨w, hw, rfl⟩
  obtain ⟨path, bl, bl', n, hpne, hpath, hbl, hbl', hn, rfl⟩ := mem_member.1 hw
  simp only [List.append_assoc, List.cons_append]
  by_cases hbefore : bl = []
  · subst hbefore
    by_cases hafter : bl' = []
    · subst hafter
      exact member?_point hne hname hpne hpath hn hrest
    · exact member?_point_blank hne hname hpne hpath hn hbl' hafter rest
  · exact member?_blank_point hne hname hpne hpath hn hbl hbefore hbl' rest

end Member

theorem isPathChar_of_isNameChar {c : Char} (h : isNameChar c = true) : isPathChar c = true := by
  simp [isPathChar, h]

theorem not_nameChar {c : Char} (h : isPathChar c = false) : isNameChar c = false := by
  simp only [isPathChar, Bool.or_eq_false_iff] at h
  exact h.1

theorem skipObjects_pointed {w : Text} (hw : w ∈ pointed isNameChar) (hrest : Flush rest) :
    skipObjects (w ++ rest) = skipObjects rest := by
  obtain ⟨n, bl, bl', hne, hn, hbl, hbl', rfl⟩ := mem_pointed.1 hw
  have hrun : run? isNameChar (n ++ (bl ++ '.' :: bl') ++ rest) =
      some (n, bl ++ '.' :: (bl' ++ rest)) := by
    refine run?_eq_some.2 ⟨hne, hn, fun c hc => ?_, by simp⟩
    cases bl with
    | nil =>
      obtain rfl := Option.some.inj hc
      decide
    | cons b bl =>
      obtain rfl := Option.some.inj hc
      exact not_nameChar (isPathChar_of_isBlank (hbl b (by simp)))
  have hmark : afterMark? '.' (bl ++ '.' :: (bl' ++ rest)) = some (bl' ++ rest) :=
    (afterMark?_eq_some (by decide)).2 ⟨bl, hbl, rfl⟩
  have hskip : skipBlanks (bl' ++ rest) = rest := by rw [skipBlanks_append hbl', hrest]
  have hshort : rest.length < (n ++ (bl ++ '.' :: bl') ++ rest).length := by
    simp only [List.length_append, List.length_cons]
    omega
  rw [skipObjects, hrun]
  simp only [hmark, hskip, if_pos hshort]

theorem skipObjects_name {n : Text} (hne : n ≠ []) (hn : ∀ c ∈ n, isNameChar c = true)
    (hrest : AtParen rest) : skipObjects (n ++ rest) = n ++ rest := by
  have hrun : run? isNameChar (n ++ rest) = some (n, rest) :=
    run?_eq_some.2 ⟨hne, hn, fun c hc => not_nameChar (hrest.not_pathChar c hc), rfl⟩
  rw [skipObjects, hrun]
  simp only [hrest.no_point]

theorem skipObjects_split (t : Text) : ∃ w ∈ (pointed isNameChar)∗, t = w ++ skipObjects t := by
  fun_induction skipObjects t with
  | case1 t h => exact ⟨[], Language.nil_mem_kstar _, rfl⟩
  | case2 t run rest hrun h => exact ⟨[], Language.nil_mem_kstar _, rfl⟩
  | case3 t run rest hrun after hpoint rest' hlt ih =>
    obtain ⟨hne, hname, _, rfl⟩ := run?_eq_some.1 hrun
    obtain ⟨bl, hbl, rfl⟩ := (afterMark?_eq_some (by decide)).1 hpoint
    obtain ⟨bl', hbl', hafter⟩ := skipBlanks_split after
    obtain ⟨w, hw, hrest⟩ := ih
    have hfirst : run ++ (bl ++ '.' :: bl') ∈ pointed isNameChar :=
      mem_pointed.2 ⟨run, bl, bl', hne, hname, hbl, hbl', rfl⟩
    refine ⟨run ++ (bl ++ '.' :: bl') ++ w, ?_, ?_⟩
    · rw [← Language.one_add_self_mul_kstar_eq_kstar]
      exact .inr (Language.append_mem_mul hfirst hw)
    · conv_lhs => rw [hafter, show skipBlanks after = w ++ skipObjects rest' from hrest]
      simp
  | case4 t run rest hrun after hpoint rest' hlt => exact ⟨[], Language.nil_mem_kstar _, rfl⟩

theorem mem_textMember {w : Text} : w ∈ textMember ↔ ∃ (parts : List Text) (n : Text),
    (∀ part ∈ parts, part ∈ pointed isNameChar) ∧ SameLetters "text".toList n ∧
      w = parts.flatten ++ n := by
  constructor
  · rintro ⟨_, hw, n, hn, rfl⟩
    obtain ⟨parts, rfl, hparts⟩ := Language.mem_kstar.1 hw
    exact ⟨parts, n, hparts, hn, rfl⟩
  · rintro ⟨parts, n, hparts, hn, rfl⟩
    exact ⟨_, Language.mem_kstar.2 ⟨parts, rfl, hparts⟩, n, hn, rfl⟩

section Chain

variable {parts : List Text} (hparts : ∀ part ∈ parts, part ∈ pointed isNameChar)
include hparts

theorem solid_chain {x : Text} (hx : Solid x) : Solid (parts.flatten ++ x) := by
  induction parts with
  | nil => exact hx
  | cons part parts ih =>
    obtain ⟨hpart, hparts⟩ := List.forall_mem_cons.1 hparts
    rw [List.flatten_cons, List.append_assoc]
    exact solid_pointed (fun _ => isPathChar_of_isNameChar) hpart (ih hparts)

theorem skipObjects_chain {n : Text} (hn : SameLetters "text".toList n) (hrest : AtParen rest) :
    skipObjects (parts.flatten ++ (n ++ rest)) = n ++ rest := by
  have hsolid := solid_of_sameLetters (by decide) (by decide) hn
  induction parts with
  | nil =>
    obtain ⟨c, x, hx, _⟩ := hsolid.first
    have hname := isNameChar_of_sameLetters (by decide) hn
    exact skipObjects_name (n := n) (by simp [hx]) hname hrest
  | cons part parts ih =>
    obtain ⟨hpart, hparts⟩ := List.forall_mem_cons.1 hparts
    have hflush := (solid_chain hparts hsolid).flush rest
    rw [List.append_assoc] at hflush
    rw [List.flatten_cons, List.append_assoc, skipObjects_pointed hpart hflush, ih hparts]

end Chain

theorem solid_textMember : ∀ w ∈ textMember, Solid w := by
  intro w hw
  obtain ⟨parts, n, hparts, hn, rfl⟩ := mem_textMember.1 hw
  exact solid_chain hparts (solid_of_sameLetters (by decide) (by decide) hn)

theorem takes_textMember :
    Takes AtParen (fun t => afterAnyCase? "text".toList (skipObjects t)) textMember := by
  intro t rest hrest
  rw [begins_eq]
  constructor
  · intro h
    obtain ⟨w, hw, hsplit⟩ := skipObjects_split t
    obtain ⟨n, hn, hname⟩ := afterAnyCase?_eq_some.1 h
    exact ⟨w ++ n, Language.append_mem_mul hw hn, by rw [hsplit, hname, List.append_assoc]⟩
  · rintro ⟨w, hw, rfl⟩
    obtain ⟨parts, n, hparts, hn, rfl⟩ := mem_textMember.1 hw
    refine afterAnyCase?_eq_some.2 ⟨n, hn, ?_⟩
    rw [List.append_assoc, skipObjects_chain hparts hn hrest]

end EndpointManifest.Assertion
