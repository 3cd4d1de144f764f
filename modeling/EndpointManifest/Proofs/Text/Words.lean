import EndpointManifest.Proofs.Text.Reader
import EndpointManifest.Text.Blank
import Mathlib.Data.List.Chain

/-! Trimming a text and making every run of blanks one space gives its words with a space between
them. A split at a blank splits the words too, and from that one equation the rest follows. -/

namespace EndpointManifest.Text

theorem splitWhere_ne_nil {α : Type} (p : α → Bool) (l : List α) : splitWhere p l ≠ [] := by
  cases l with
  | nil => simp [splitWhere]
  | cons c l => simp only [splitWhere]; split <;> (try split) <;> simp

theorem splitWhere_append_cons {α : Type} {p : α → Bool} {c : α} (hc : p c = true) (u v : List α) :
    splitWhere p (u ++ c :: v) = splitWhere p u ++ splitWhere p v := by
  induction u with
  | nil => simp [splitWhere, hc]
  | cons d u ih =>
    simp only [List.cons_append, splitWhere, ih]
    split
    · rfl
    · obtain ⟨w, ws, hw⟩ := List.exists_cons_of_ne_nil (splitWhere_ne_nil p u)
      rw [hw]
      rfl

theorem splitWhere_of_all_not {α : Type} {p : α → Bool} {u : List α} (h : ∀ c ∈ u, p c = false) :
    splitWhere p u = [u] := by
  induction u with
  | nil => rfl
  | cons c u ih =>
    simp only [List.mem_cons, forall_eq_or_imp] at h
    simp [splitWhere, h.1, ih h.2]

theorem not_of_mem_splitWhere {α : Type} {p : α → Bool} {l w : List α} (hw : w ∈ splitWhere p l) :
    ∀ c ∈ w, p c = false := by
  induction l generalizing w with
  | nil => simp [splitWhere] at hw; simp [hw]
  | cons d l ih =>
    obtain ⟨v, vs, hv⟩ := List.exists_cons_of_ne_nil (splitWhere_ne_nil p l)
    simp only [splitWhere, hv] at hw ih
    split at hw
    · rcases List.mem_cons.1 hw with rfl | hw
      · simp
      · exact ih hw
    · next hd =>
      rcases List.mem_cons.1 hw with rfl | hw
      · intro c hc
        rcases List.mem_cons.1 hc with rfl | hc
        · simpa using hd
        · exact ih (List.mem_cons_self ..) c hc
      · exact ih (List.mem_cons_of_mem _ hw)

/-- The parts hold everything but the separators. -/
theorem flatten_splitWhere {α : Type} (p : α → Bool) (l : List α) :
    (splitWhere p l).flatten = l.filter fun c => !p c := by
  induction l with
  | nil => rfl
  | cons c l ih =>
    obtain ⟨w, ws, hw⟩ := List.exists_cons_of_ne_nil (splitWhere_ne_nil p l)
    rw [hw] at ih
    cases hc : p c <;> simp [splitWhere, hw, hc, ← ih]

@[simp] theorem words_nil : words [] = [] := rfl

theorem words_append_blank {c : Char} (hc : isBlank c = true) (u v : Text) :
    words (u ++ c :: v) = words u ++ words v := by
  rw [words, splitWhere_append_cons hc, List.filter_append]
  rfl

theorem words_of_not_blank {u : Text} (hne : u ≠ []) (h : ∀ c ∈ u, isBlank c = false) :
    words u = [u] := by
  simp [words, splitWhere_of_all_not h, hne]

theorem of_mem_words {t w : Text} (h : w ∈ words t) : w ≠ [] ∧ ∀ c ∈ w, isBlank c = false := by
  obtain ⟨hw, hne⟩ := List.mem_filter.1 h
  exact ⟨by simpa using hne, not_of_mem_splitWhere hw⟩

theorem words_blank_append {bl : Text} (h : AllBlank bl) (t : Text) : words (bl ++ t) = words t := by
  induction bl with
  | nil => rfl
  | cons c bl ih =>
    have hc := words_append_blank (h c (by simp)) [] (bl ++ t)
    rw [List.cons_append, ← List.nil_append (c :: (bl ++ t)), hc, words_nil, List.nil_append]
    exact ih fun d hd => h d (by simp [hd])

theorem words_append_allBlank {bl : Text} (h : AllBlank bl) (t : Text) :
    words (t ++ bl) = words t := by
  cases bl with
  | nil => simp
  | cons c bl =>
    have hbl : words (bl ++ []) = words [] := words_blank_append (fun d hd => h d (by simp [hd])) []
    rw [words_append_blank (h c (by simp)), ← List.append_nil bl, hbl]
    simp

theorem words_ne_nil {c : Char} (hc : isBlank c = false) (t : Text) : words (c :: t) ≠ [] := by
  have hword : ∀ d ∈ (c :: t).takeWhile (!isBlank ·), isBlank d = false := by
    intro d hd
    simpa using List.mem_takeWhile_imp hd
  have hne : (c :: t).takeWhile (!isBlank ·) ≠ [] := by simp [hc]
  rw [← List.takeWhile_append_dropWhile (p := (!isBlank ·)) (l := c :: t)]
  cases hrest : (c :: t).dropWhile (!isBlank ·) with
  | nil => simp [words_of_not_blank hne hword]
  | cons b r =>
    have hb : isBlank b = true := by
      have := List.head?_dropWhile_not (!isBlank ·) (c :: t)
      rw [hrest] at this
      simpa using this
    simp [words_append_blank hb, words_of_not_blank hne hword]

theorem words_eq_nil_iff {t : Text} : words t = [] ↔ AllBlank t := by
  constructor
  · intro hwords
    obtain ⟨bl, hbl, hsplit⟩ := skipBlanks_split t
    cases hskip : skipBlanks t with
    | nil =>
      rw [hskip, List.append_nil] at hsplit
      exact hsplit ▸ hbl
    | cons c rest =>
      rw [hsplit, words_blank_append hbl, hskip] at hwords
      exact absurd hwords (words_ne_nil (head_skipBlanks hskip) rest)
  · exact fun h => words_append_allBlank h []

theorem exists_trim_append (t : Text) : ∃ bl, AllBlank bl ∧ skipBlanks t = trim t ++ bl := by
  refine ⟨((skipBlanks t).reverse.takeWhile isBlank).reverse, ?_, ?_⟩
  · intro c hc
    exact List.mem_takeWhile_imp (List.mem_reverse.1 hc)
  · rw [trim, dropTrailing, ← List.reverse_append, List.takeWhile_append_dropWhile,
      List.reverse_reverse]

theorem mem_trim {c : Char} {t : Text} (h : c ∈ t) (hc : isBlank c = false) : c ∈ trim t := by
  obtain ⟨bl, hbl, hfront⟩ := skipBlanks_split t
  obtain ⟨bl', hbl', hback⟩ := exists_trim_append t
  rw [hfront, hback] at h
  simpa [not_mem_blanks hbl hc, not_mem_blanks hbl' hc] using h

theorem words_trim (t : Text) : words (trim t) = words t := by
  obtain ⟨bl, hbl, ht⟩ := skipBlanks_split t
  obtain ⟨bl', hbl', ht'⟩ := exists_trim_append t
  conv_rhs => rw [ht, words_blank_append hbl, ht', words_append_allBlank hbl']

theorem dropTrailing_append {p : Char → Bool} {c : Char} (hc : p c = false) (u v : Text) :
    dropTrailing p (u ++ c :: v) = u ++ c :: dropTrailing p v := by
  rw [dropTrailing, dropTrailing, List.reverse_append, List.reverse_cons, List.append_assoc,
    List.dropWhile_append]
  split
  · next hnil =>
    rw [List.isEmpty_iff.1 hnil, List.singleton_append, List.dropWhile_cons_of_neg (by simp [hc])]
    simp
  · simp

def Trimmed (t : Text) : Prop :=
  (∀ c, t.head? = some c → isBlank c = false) ∧ (∀ c, t.getLast? = some c → isBlank c = false)

theorem trimmed_trim (t : Text) : Trimmed (trim t) := by
  constructor
  · intro c hc
    have hlead : ∀ d, (skipBlanks t).head? = some d → isBlank d = false := by
      intro d hd
      obtain ⟨rest, hrest⟩ := List.head?_eq_some_iff.1 hd
      exact head_skipBlanks hrest
    obtain ⟨bl, _, hback⟩ := exists_trim_append t
    obtain ⟨rest, hrest⟩ := List.head?_eq_some_iff.1 hc
    exact hlead c (by rw [hback, hrest]; rfl)
  · intro c hc
    rw [trim, dropTrailing, List.getLast?_reverse] at hc
    have := List.head?_dropWhile_not isBlank (skipBlanks t).reverse
    rw [hc] at this
    simpa using this

theorem trim_subset {c : Char} {t : Text} (h : c ∈ trim t) : c ∈ t := by
  obtain ⟨bl, _, hlead⟩ := skipBlanks_split t
  obtain ⟨bl', _, hback⟩ := exists_trim_append t
  rw [hlead, hback]
  simp [h]

theorem collapseBlanks_cons {c : Char} (h : isBlank c = false) (t : Text) :
    collapseBlanks (c :: t) = c :: collapseBlanks t := by
  rw [collapseBlanks.eq_def]
  simp [h]

theorem collapseBlanks_append {u : Text} (h : ∀ c ∈ u, isBlank c = false) (v : Text) :
    collapseBlanks (u ++ v) = u ++ collapseBlanks v := by
  induction u with
  | nil => rfl
  | cons c u ih =>
    simp only [List.mem_cons, forall_eq_or_imp] at h
    rw [List.cons_append, collapseBlanks_cons h.1, ih h.2]
    rfl

theorem collapseBlanks_blank {bl : Text} (hne : bl ≠ []) (h : AllBlank bl) {c : Char}
    (hc : isBlank c = false) (v : Text) :
    collapseBlanks (bl ++ c :: v) = ' ' :: collapseBlanks (c :: v) := by
  induction bl with
  | nil => exact absurd rfl hne
  | cons b bl ih =>
    have hb : isBlank b = true := h b (by simp)
    cases bl with
    | nil =>
      rw [List.singleton_append, collapseBlanks.eq_def]
      simp [hb, hc]
    | cons b' bl =>
      have hb' : isBlank b' = true := h b' (by simp)
      rw [List.cons_append, List.cons_append, collapseBlanks.eq_def]
      simp only [hb, hb', if_true]
      exact ih (by simp) fun d hd => h d (by simp [hd])

theorem join_cons {sep : Char} {w : Text} {ws : List Text} (h : ws ≠ []) :
    join [sep] (w :: ws) = w ++ sep :: join [sep] ws := by
  obtain ⟨v, vs, rfl⟩ := List.exists_cons_of_ne_nil h
  simp [join, List.intercalate_cons_cons]

theorem Trimmed.of_append {u v : Text} (h : Trimmed (u ++ v))
    (hc : ∀ c, v.head? = some c → isBlank c = false) : Trimmed v := by
  refine ⟨hc, fun c hl => h.2 c ?_⟩
  rw [List.getLast?_append, hl]
  rfl

/-- A word's end: the text is a word, or a word followed by blanks and a further trimmed text. -/
theorem Trimmed.split {t : Text} (h : Trimmed t) (hne : t ≠ []) :
    (∀ c ∈ t, isBlank c = false) ∨
      ∃ w bl c v, w ≠ [] ∧ (∀ d ∈ w, isBlank d = false) ∧ bl ≠ [] ∧ AllBlank bl ∧
        isBlank c = false ∧ t = w ++ (bl ++ c :: v) ∧ Trimmed (c :: v) := by
  have hword : ∀ d ∈ t.takeWhile (!isBlank ·), isBlank d = false := by
    intro d hd
    simpa using List.mem_takeWhile_imp hd
  have hsplit : t = t.takeWhile (!isBlank ·) ++ t.dropWhile (!isBlank ·) :=
    (List.takeWhile_append_dropWhile ..).symm
  have hw : t.takeWhile (!isBlank ·) ≠ [] := by
    obtain ⟨c, t, rfl⟩ := List.exists_cons_of_ne_nil hne
    simp [h.1 c rfl]
  cases hrest : t.dropWhile (!isBlank ·) with
  | nil =>
    left
    rw [hsplit, hrest, List.append_nil]
    exact hword
  | cons b r =>
    right
    have hb : isBlank b = true := by
      have := List.head?_dropWhile_not (!isBlank ·) t
      rw [hrest] at this
      simpa using this
    obtain ⟨bl, hbl, hr⟩ := skipBlanks_split (b :: r)
    rw [hrest] at hsplit
    cases hskip : skipBlanks (b :: r) with
    | nil =>
      -- a blank would end the text
      rw [hskip, List.append_nil] at hr
      obtain ⟨last, hlast⟩ := Option.isSome_iff_exists.1
        (show (b :: r).getLast?.isSome = true by simp)
      have hblank : isBlank last = true := by
        apply hbl
        rw [← hr]
        exact List.mem_of_getLast? hlast
      have := h.2 last (by rw [hsplit, List.getLast?_append, hlast]; rfl)
      rw [hblank] at this
      cases this
    | cons c v =>
      have hc := head_skipBlanks hskip
      rw [hskip] at hr
      have hblne : bl ≠ [] := by
        rintro rfl
        rw [List.nil_append, List.cons.injEq] at hr
        rw [hr.1, hc] at hb
        cases hb
      rw [hr] at hsplit
      refine ⟨_, bl, c, v, hw, hword, hblne, hbl, hc, hsplit, ?_⟩
      rw [hsplit, ← List.append_assoc] at h
      exact h.of_append (by simpa using hc)

theorem collapseBlanks_of_trimmed (t : Text) (h : Trimmed t) :
    collapseBlanks t = join [' '] (words t) := by
  by_cases hne : t = []
  · subst hne; rfl
  rcases h.split hne with hall | ⟨w, bl, c, v, hw, hword, hblne, hbl, hc, rfl, hv⟩
  · have := collapseBlanks_append hall []
    rw [words_of_not_blank hne hall]
    simpa [join, collapseBlanks] using this
  · obtain ⟨b, bl, rfl⟩ := List.exists_cons_of_ne_nil hblne
    have hwords : words (w ++ (b :: bl ++ c :: v)) = w :: words (c :: v) := by
      rw [List.cons_append, words_append_blank (hbl b (by simp)), words_of_not_blank hw hword,
        words_blank_append fun d hd => hbl d (by simp [hd])]
      rfl
    have hrest := words_ne_nil hc v
    rw [collapseBlanks_append hword, collapseBlanks_blank hblne hbl hc, hwords, join_cons hrest,
      collapseBlanks_of_trimmed (c :: v) hv]
termination_by t.length

/-- Not empty, with single spaces as its only blanks, and none at an end. -/
structure SingleSpaced (t : Text) : Prop where
  ne_nil : t ≠ []
  blank_eq : ∀ c ∈ t, isBlank c = true → c = ' '
  not_doubled : ¬ [' ', ' '] <:+: t
  not_leading : t.head? ≠ some ' '
  not_trailing : t.getLast? ≠ some ' '

def NoBlankPair (t : Text) : Prop :=
  t.IsChain fun a b => isBlank a = false ∨ isBlank b = false

theorem join_spaces {ws : List Text} (hne : ws ≠ [])
    (hws : ∀ w ∈ ws, w ≠ [] ∧ ∀ c ∈ w, isBlank c = false) :
    Trimmed (join [' '] ws) ∧ join [' '] ws ≠ [] ∧ NoBlankPair (join [' '] ws) ∧
      ∀ c ∈ join [' '] ws, isBlank c = true → c = ' ' := by
  induction ws with
  | nil => exact absurd rfl hne
  | cons w ws ih =>
    obtain ⟨⟨hw, hword⟩, hrest⟩ := List.forall_mem_cons.1 hws
    have htw : Trimmed w :=
      ⟨fun c hc => hword c (List.mem_of_head? hc), fun c hc => hword c (List.mem_of_getLast? hc)⟩
    have hpw : NoBlankPair w :=
      List.isChain_iff_getElem.2 fun _ _ => .inl (hword _ (List.getElem_mem _))
    by_cases hws' : ws = []
    · have hone : join [' '] [w] = w := List.intercalate_singleton
      rw [hws', hone]
      refine ⟨htw, hw, hpw, fun c hc hb => ?_⟩
      rw [hword c hc] at hb
      cases hb
    · obtain ⟨htj, hj, hpj, hbj⟩ := ih hws' hrest
      rw [join_cons hws']
      have hhead : ∀ c, (w ++ ' ' :: join [' '] ws).head? = some c → isBlank c = false := by
        intro c hc
        exact htw.1 c (by rwa [List.head?_append_of_ne_nil _ hw] at hc)
      have hlast : ∀ c, (w ++ ' ' :: join [' '] ws).getLast? = some c → isBlank c = false := by
        intro c hc
        obtain ⟨d, l, hl⟩ := List.exists_cons_of_ne_nil hj
        rw [hl, List.getLast?_append_of_ne_nil _ (by simp), List.getLast?_cons_cons] at hc
        exact htj.2 c (by rw [hl]; exact hc)
      have hpair : NoBlankPair (w ++ ' ' :: join [' '] ws) := by
        refine hpw.append (List.isChain_cons.2 ⟨fun d hd => .inr (htj.1 d hd), hpj⟩) ?_
        exact fun a ha _ _ => .inl (hword a (List.mem_of_getLast? ha))
      refine ⟨⟨hhead, hlast⟩, by simp, hpair, fun c hc hb => ?_⟩
      rcases List.mem_append.1 hc with hc | hc
      · rw [hword c hc] at hb
        cases hb
      · exact (List.mem_cons.1 hc).elim id fun hc => hbj c hc hb

theorem singleSpaced_join {ws : List Text} (hne : ws ≠ [])
    (hws : ∀ w ∈ ws, w ≠ [] ∧ ∀ c ∈ w, isBlank c = false) : SingleSpaced (join [' '] ws) := by
  obtain ⟨htrim, hne, hpair, hblank⟩ := join_spaces hne hws
  refine ⟨hne, hblank, fun h => ?_, fun h => ?_, fun h => ?_⟩
  · have := hpair.infix h
    simp [isBlank] at this
  · have := htrim.1 _ h
    simp [isBlank] at this
  · have := htrim.2 _ h
    simp [isBlank] at this

theorem trim_isInfix (t : Text) : trim t <:+: t := by
  obtain ⟨bl, _, hlead⟩ := skipBlanks_split t
  obtain ⟨bl', _, hback⟩ := exists_trim_append t
  exact ⟨bl, bl', by rw [List.append_assoc, ← hback, ← hlead]⟩

theorem trim_of_trimmed {t : Text} (h : Trimmed t) : trim t = t := by
  have hlead : skipBlanks t = t := by
    cases t with
    | nil => rfl
    | cons c t => exact skipBlanks_cons (h.1 c rfl) t
  have hback : t.reverse.dropWhile isBlank = t.reverse := by
    rcases List.eq_nil_or_concat t with rfl | ⟨u, c, rfl⟩
    · rfl
    · have hc : isBlank c = false := h.2 c (by simp)
      simp [hc]
  rw [trim, hlead, dropTrailing, hback, List.reverse_reverse]

theorem filter_trim (t : Text) : (trim t).filter (!isBlank ·) = t.filter (!isBlank ·) := by
  have hblanks {bl : Text} (hbl : AllBlank bl) : bl.filter (!isBlank ·) = [] :=
    List.filter_eq_nil_iff.2 fun c hc => by simp [hbl c hc]
  obtain ⟨bl, hbl, hlead⟩ := skipBlanks_split t
  obtain ⟨bl', hbl', hback⟩ := exists_trim_append t
  conv_rhs => rw [hlead, hback, List.filter_append, List.filter_append, hblanks hbl, hblanks hbl']
  rw [List.nil_append, List.append_nil]

theorem filter_collapseBlanks (t : Text) :
    (collapseBlanks t).filter (!isBlank ·) = t.filter (!isBlank ·) := by
  have hblank {b : Char} (hb : isBlank b = true) (u : Text) :
      (b :: u).filter (!isBlank ·) = u.filter (!isBlank ·) :=
    List.filter_cons_of_neg (by simp [hb])
  fun_induction collapseBlanks t with
  | case1 => rfl
  | case2 b hb => rw [hblank hb, hblank (by decide)]
  | case3 b hb d rest hd ih => rw [ih, hblank hb]
  | case4 b hb d rest hd ih => rw [hblank (by decide), ih, hblank hb]
  | case5 c rest hc ih => simp [hc, ih]

theorem blank_collapseBlanks {t : Text} : ∀ c ∈ collapseBlanks t, isBlank c = true → c = ' ' := by
  fun_induction collapseBlanks t with
  | case1 => simp
  | case2 b hb => simp
  | case3 b hb d rest hd ih => exact ih
  | case4 b hb d rest hd ih => simpa using ih
  | case5 c rest hc ih => simpa [hc] using ih

theorem head_collapseBlanks {c : Char} {t : Text} (h : (collapseBlanks t).head? = some c) :
    c = ' ' ∨ isBlank c = false ∧ t.head? = some c := by
  fun_induction collapseBlanks t with
  | case1 => cases h
  | case2 b hb => exact .inl (Option.some.inj h).symm
  | case3 b hb d rest hd ih =>
    rcases ih h with hspace | ⟨hc, hhead⟩
    · exact .inl hspace
    · obtain rfl := Option.some.inj hhead
      rw [hd] at hc
      cases hc
  | case4 b hb d rest hd ih => exact .inl (Option.some.inj h).symm
  | case5 b rest hb ih =>
    obtain rfl := Option.some.inj h
    exact .inr ⟨by simpa using hb, rfl⟩

/-- What holds of all neighbours still does, if it holds wherever a space comes in. -/
theorem isChain_collapseBlanks {R : Char → Char → Prop} (hleft : ∀ a, R a ' ')
    (hright : ∀ b, R ' ' b) {t : Text} (h : t.IsChain R) : (collapseBlanks t).IsChain R := by
  fun_induction collapseBlanks t with
  | case1 => exact .nil
  | case2 b hb => exact .singleton ' '
  | case3 b hb d rest hd ih => exact ih h.tail
  | case4 b hb d rest hd ih => exact List.isChain_cons.2 ⟨fun e _ => hright e, ih h.tail⟩
  | case5 c rest hc ih =>
    refine List.isChain_cons.2 ⟨fun e he => ?_, ih h.tail⟩
    rcases head_collapseBlanks he with rfl | ⟨_, hhead⟩
    · exact hleft c
    · exact (List.isChain_cons.1 h).1 e hhead

theorem noBlankPair_collapseBlanks (t : Text) : NoBlankPair (collapseBlanks t) := by
  fun_induction collapseBlanks t with
  | case1 => exact .nil
  | case2 b hb => exact .singleton ' '
  | case3 b hb d rest hd ih => exact ih
  | case4 b hb d rest hd ih =>
    refine List.isChain_cons.2 ⟨fun e he => .inr ?_, ih⟩
    rw [collapseBlanks_cons (by simpa using hd)] at he
    obtain rfl := Option.some.inj he
    simpa using hd
  | case5 c rest hc ih => exact List.isChain_cons.2 ⟨fun _ _ => .inl (by simpa using hc), ih⟩

theorem collapseBlanks_of_noBlankPair {t : Text} (h : NoBlankPair t)
    (hblank : ∀ c ∈ t, isBlank c = true → c = ' ') : collapseBlanks t = t := by
  fun_induction collapseBlanks t with
  | case1 => rfl
  | case2 b hb => rw [hblank b (by simp) hb]
  | case3 b hb d rest hd ih =>
    rcases (List.isChain_cons_cons.1 h).1 with hfalse | hfalse
    · rw [hb] at hfalse
      cases hfalse
    · rw [hd] at hfalse
      cases hfalse
  | case4 b hb d rest hd ih =>
    rw [ih h.tail fun c hc => hblank c (List.mem_cons_of_mem _ hc), hblank b (by simp) hb]
  | case5 c rest hc ih => rw [ih h.tail fun d hd => hblank d (List.mem_cons_of_mem _ hd)]

end EndpointManifest.Text
