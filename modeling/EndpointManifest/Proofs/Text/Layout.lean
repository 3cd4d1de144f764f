import EndpointManifest.Proofs.Text.Words

/-! A text is its words laid out among blanks. Two texts with the same words differ in the blanks
only, and where neither end is blank they can be read side by side: the same characters, and a gap
in one where the other has a gap. A scan for which a gap is no more than a single blank closes both
of them or neither. -/

namespace EndpointManifest.Text

/-- The words are the maximal runs of characters that are not blank, in their order: blanks may
stand before a word, behind it stands a blank or nothing, and behind the last one blanks only. -/
inductive LaidOut : List Text → Text → Prop where
  | blanks {bl : Text} (h : AllBlank bl) : LaidOut [] bl
  | word {bl w t : Text} {ws : List Text} (hbl : AllBlank bl) (hne : w ≠ [])
      (hw : ∀ c ∈ w, isBlank c = false) (hstop : ∀ c, t.head? = some c → isBlank c = true)
      (h : LaidOut ws t) : LaidOut (w :: ws) (bl ++ (w ++ t))

def Relaid (t u : Text) : Prop := ∃ ws, LaidOut ws t ∧ LaidOut ws u

section

variable {t u w bl : Text} {ws : List Text} {c : Char}

theorem words_append_stop (hstop : ∀ c, t.head? = some c → isBlank c = true) (u : Text) :
    words (u ++ t) = words u ++ words t := by
  cases t with
  | nil => simp
  | cons b t =>
    have hb := hstop b rfl
    have hbehind : words (b :: t) = words t := words_append_blank hb [] t
    rw [words_append_blank hb, hbehind]

theorem LaidOut.words_eq (h : LaidOut ws t) : words t = ws := by
  induction h with
  | blanks h => exact words_eq_nil_iff.2 h
  | word hbl hne hw hstop _ ih =>
    rw [words_blank_append hbl, words_append_stop hstop, words_of_not_blank hne hw, ih]
    rfl

theorem laidOut_words (t : Text) : LaidOut (words t) t := by
  induction hn : t.length using Nat.strong_induction_on generalizing t with
  | _ n ih =>
    obtain ⟨bl, hbl, ht⟩ := skipBlanks_split t
    cases hrest : skipBlanks t with
    | nil =>
      rw [hrest, List.append_nil] at ht
      rw [ht, words_eq_nil_iff.2 hbl]
      exact .blanks hbl
    | cons c rest =>
      have hc := head_skipBlanks hrest
      -- the first word goes up to the next blank, and the rest is shorter
      obtain ⟨hsplit, hw, hstop⟩ := span_eq_iff.1
        (List.span_eq_takeWhile_dropWhile (p := (!isBlank ·)) (l := c :: rest))
      simp only [Bool.not_eq_true', Bool.not_eq_false'] at hw hstop
      have hne : (c :: rest).takeWhile (!isBlank ·) ≠ [] := by simp [hc]
      generalize (c :: rest).takeWhile (!isBlank ·) = w at hsplit hw hne
      generalize (c :: rest).dropWhile (!isBlank ·) = back at hsplit hstop
      rw [hrest, hsplit] at ht
      have hback : back.length < n := by
        have := List.length_pos_iff.2 hne
        rw [← hn, ht, List.length_append, List.length_append]
        omega
      have hwords : words t = w :: words back := by
        rw [ht, words_blank_append hbl, words_append_stop hstop, words_of_not_blank hne hw]
        rfl
      rw [hwords, ht]
      exact .word hbl hne hw hstop (ih _ hback back rfl)

/-- Every text is laid out in one way. -/
theorem laidOut_iff : LaidOut ws t ↔ ws = words t :=
  ⟨fun h => h.words_eq.symm, fun h => h ▸ laidOut_words t⟩

theorem relaid_iff : Relaid t u ↔ words u = words t := by
  simp only [Relaid, laidOut_iff]
  exact ⟨fun ⟨_, ht, hu⟩ => hu ▸ ht, fun h => ⟨_, rfl, h.symm⟩⟩

theorem words_join {ws : List Text} (hws : ∀ w ∈ ws, w ≠ [] ∧ ∀ c ∈ w, isBlank c = false) :
    words (join [' '] ws) = ws := by
  induction ws with
  | nil => rfl
  | cons w ws ih =>
    obtain ⟨⟨hne, hw⟩, hrest⟩ := List.forall_mem_cons.1 hws
    by_cases hnil : ws = []
    · subst hnil
      rw [show join [' '] [w] = w from List.intercalate_singleton]
      exact words_of_not_blank hne hw
    · rw [join_cons hnil, words_append_blank (by decide), words_of_not_blank hne hw, ih hrest]
      rfl

/-- Two texts side by side: the same characters, and blanks in one where the other has blanks. -/
inductive Aligned : Text → Text → Prop where
  | nil : Aligned [] []
  | char {c : Char} {t u : Text} (hc : isBlank c = false) (h : Aligned t u) :
      Aligned (c :: t) (c :: u)
  | gap {bl bl' t u : Text} {c : Char} (hbl : AllBlank bl) (hne : bl ≠ []) (hbl' : AllBlank bl')
      (hne' : bl' ≠ []) (hc : isBlank c = false) (h : Aligned (c :: t) (c :: u)) :
      Aligned (bl ++ c :: t) (bl' ++ c :: u)

theorem Aligned.append_left (hw : ∀ c ∈ w, isBlank c = false) (h : Aligned t u) :
    Aligned (w ++ t) (w ++ u) := by
  induction w with
  | nil => exact h
  | cons c w ih =>
    obtain ⟨hc, hw⟩ := List.forall_mem_cons.1 hw
    exact .char hc (ih hw)

theorem Aligned.eq_nil_iff (h : Aligned t u) : t = [] ↔ u = [] := by
  cases h <;> simp

theorem Aligned.of_cons (h : Aligned (c :: t) u) (hc : isBlank c = false) :
    ∃ u', u = c :: u' ∧ Aligned t u' := by
  generalize ht : c :: t = x at h
  cases h with
  | nil => cases ht
  | char _ h =>
    obtain ⟨rfl, rfl⟩ := List.cons.inj ht
    exact ⟨_, rfl, h⟩
  | gap hbl hne _ _ _ _ =>
    obtain ⟨b, bl, rfl⟩ := List.exists_cons_of_ne_nil hne
    obtain ⟨rfl, _⟩ := List.cons.inj ht
    rw [hbl c (by simp)] at hc
    cases hc

theorem Aligned.of_append (hw : ∀ c ∈ w, isBlank c = false) (h : Aligned (w ++ t) u) :
    ∃ u', u = w ++ u' ∧ Aligned t u' := by
  induction w generalizing u with
  | nil => exact ⟨u, rfl, h⟩
  | cons c w ih =>
    obtain ⟨hc, hw⟩ := List.forall_mem_cons.1 hw
    obtain ⟨v, rfl, hv⟩ := h.of_cons hc
    obtain ⟨u', rfl, h'⟩ := ih hw hv
    exact ⟨u', rfl, h'⟩

theorem Aligned.of_blanks (hbl : AllBlank bl) (hc : isBlank c = false)
    (h : Aligned (bl ++ c :: t) u) :
    ∃ bl' u', AllBlank bl' ∧ u = bl' ++ c :: u' ∧ Aligned t u' := by
  by_cases hnil : bl = []
  · subst hnil
    obtain ⟨u', rfl, h'⟩ := h.of_cons hc
    exact ⟨[], u', allBlank_nil, rfl, h'⟩
  obtain ⟨b, back, rfl⟩ := List.exists_cons_of_ne_nil hnil
  generalize ht : b :: back ++ c :: t = x at h
  cases h with
  | nil => cases ht
  | char hfalse _ =>
    obtain ⟨rfl, _⟩ := List.cons.inj ht
    rw [hbl b (by simp)] at hfalse
    cases hfalse
  | @gap front front' t' u' d hfront _ hfront' _ hd h =>
    -- both splits are at the first character that is not blank
    have hsplit {bl : Text} (hbl : AllBlank bl) : ∀ e ∈ bl, (!isBlank e) = false :=
      fun e he => by simp [hbl e he]
    have hmark {e : Char} (he : isBlank e = false) : (!isBlank e) = true := by simp [he]
    obtain ⟨_, rfl, rfl⟩ : front = b :: back ∧ d = c ∧ t' = t := by
      rcases split_first (hsplit hbl) (hmark hd) ht with heq | ⟨w, rfl, _⟩
      · exact heq
      · rw [hfront c (by simp)] at hc
        cases hc
    obtain ⟨_, hu, h'⟩ := h.of_cons hc
    obtain ⟨_, rfl⟩ := List.cons.inj hu
    exact ⟨front', u', hfront', rfl, h'⟩

theorem eq_nil_of_allBlank (h : AllBlank bl)
    (hlast : ∀ c, bl.getLast? = some c → isBlank c = false) : bl = [] := by
  by_contra hne
  have hend := List.getLast?_eq_some_getLast hne
  have := hlast _ hend
  rw [h _ (List.mem_of_getLast? hend)] at this
  cases this

/-- Behind a word a gap follows if and only if a further word does. -/
theorem LaidOut.gap_iff (h : LaidOut ws t) (hstop : ∀ c, t.head? = some c → isBlank c = true)
    (hlast : ∀ c, t.getLast? = some c → isBlank c = false) :
    (∃ c, t.head? = some c ∧ isBlank c = true) ↔ ws ≠ [] := by
  cases h with
  | blanks h => simp [eq_nil_of_allBlank h hlast]
  | @word bl w t ws hbl hne hw _ h =>
    obtain ⟨c, w, rfl⟩ := List.exists_cons_of_ne_nil hne
    cases bl <;> simpa using hstop

/-- Two layouts of the same words are aligned if neither ends in a blank, and both begin with one or
neither does. -/
theorem LaidOut.aligned (ht : LaidOut ws t) (hu : LaidOut ws u)
    (hlast : ∀ c, t.getLast? = some c → isBlank c = false)
    (hlast' : ∀ c, u.getLast? = some c → isBlank c = false)
    (hhead : (∃ c, t.head? = some c ∧ isBlank c = true) ↔
      ∃ c, u.head? = some c ∧ isBlank c = true) : Aligned t u := by
  induction ht generalizing u with
  | @blanks bl hbl =>
    cases hu with
    | blanks hbl' =>
      rw [eq_nil_of_allBlank hbl hlast, eq_nil_of_allBlank hbl' hlast']
      exact .nil
  | @word bl w t ws hbl hne hw hstop ht ih =>
    cases hu with
    | @word bl' _ u _ hbl' _ _ hstop' hu =>
      have hback {x : Text} {c : Char} (hc : x.getLast? = some c) (bl : Text) :
          (bl ++ (w ++ x)).getLast? = some c :=
        List.mem_getLast?_append_of_mem_getLast? (List.mem_getLast?_append_of_mem_getLast? hc)
      have hend (c : Char) (hc : t.getLast? = some c) : isBlank c = false :=
        hlast c (hback hc bl)
      have hend' (c : Char) (hc : u.getLast? = some c) : isBlank c = false :=
        hlast' c (hback hc bl')
      have hrest : Aligned (w ++ t) (w ++ u) := by
        refine .append_left hw (ih hu hend hend' ?_)
        rw [ht.gap_iff hstop hend, hu.gap_iff hstop' hend']
      obtain ⟨c, w, rfl⟩ := List.exists_cons_of_ne_nil hne
      have hc : isBlank c = false := hw c (by simp)
      -- by `hhead` the word stands behind blanks in both texts or in neither
      cases bl with
      | nil =>
        cases bl' with
        | nil => exact hrest
        | cons b' bl' => simp [hc, hbl' b' (by simp)] at hhead
      | cons b bl =>
        cases bl' with
        | nil => simp [hc, hbl b (by simp)] at hhead
        | cons b' bl' => exact .gap hbl (by simp) hbl' (by simp) hc hrest

theorem Relaid.aligned (h : Relaid t u) (ht : Trimmed t) (hu : Trimmed u) : Aligned t u := by
  obtain ⟨ws, hws, hws'⟩ := h
  have hnot {x : Text} (hx : Trimmed x) : ¬ ∃ c, x.head? = some c ∧ isBlank c = true := by
    rintro ⟨c, hhead, hblank⟩
    rw [hx.1 c hhead] at hblank
    cases hblank
  exact hws.aligned hws' ht.2 hu.2 (iff_of_false (hnot ht) (hnot hu))

end

/-- What is looked for is found at the last character of the text. -/
def EndsAtLast (f : Text → Option Nat) (t : Text) : Prop := ∃ n, f t = some n ∧ t.length = n + 1

/-- A scan that goes through a text character by character until it is done, with a state that is
the same after any number of blanks as after one. -/
structure Scans {S : Type} (f : S → Text → Option Nat) (next : S → Char → Option S) : Prop where
  cons : ∀ s c t, f s (c :: t) = (next s c).elim (some 0) fun s' => (f s' t).map (· + 1)
  blank : ∀ s, ∃ s', ∀ b, isBlank b = true → next s b = some s' ∧ next s' b = some s'

namespace Scans

variable {S : Type} {f : S → Text → Option Nat} {next : S → Char → Option S} {s s' : S} {c : Char}
  {t u : Text}

theorem endsAtLast_done (hf : Scans f next) (h : next s c = none) :
    EndsAtLast (f s) (c :: t) ↔ t = [] := by
  simp [EndsAtLast, hf.cons, h, eq_comm]

theorem endsAtLast_cons (hf : Scans f next) (h : next s c = some s') :
    EndsAtLast (f s) (c :: t) ↔ EndsAtLast (f s') t := by
  simp only [EndsAtLast, hf.cons, h, Option.elim_some, Option.map_eq_some_iff, List.length_cons]
  constructor
  · rintro ⟨_, ⟨n, hn, rfl⟩, hlength⟩
    exact ⟨n, hn, Nat.succ.inj hlength⟩
  · rintro ⟨n, hn, hlength⟩
    exact ⟨n + 1, ⟨n, hn, rfl⟩, congrArg Nat.succ hlength⟩

/-- A gap is passed over whole, and it does not matter how wide it is. -/
theorem exists_behind_gap (hf : Scans f next) (s : S) : ∃ s', ∀ bl t, AllBlank bl → bl ≠ [] →
    (EndsAtLast (f s) (bl ++ t) ↔ EndsAtLast (f s') t) := by
  obtain ⟨s', hblank⟩ := hf.blank s
  have hstays (bl t : Text) (hbl : AllBlank bl) :
      EndsAtLast (f s') (bl ++ t) ↔ EndsAtLast (f s') t := by
    induction bl with
    | nil => exact Iff.rfl
    | cons b bl ih =>
      obtain ⟨hb, hbl⟩ := List.forall_mem_cons.1 hbl
      rw [List.cons_append, hf.endsAtLast_cons (hblank b hb).2, ih hbl]
  refine ⟨s', fun bl t hbl hne => ?_⟩
  obtain ⟨b, bl, rfl⟩ := List.exists_cons_of_ne_nil hne
  obtain ⟨hb, hbl⟩ := List.forall_mem_cons.1 hbl
  rw [List.cons_append, hf.endsAtLast_cons (hblank b hb).1, hstays bl t hbl]

theorem endsAtLast_aligned (hf : Scans f next) (h : Aligned t u) (s : S) :
    EndsAtLast (f s) t ↔ EndsAtLast (f s) u := by
  induction h generalizing s with
  | nil => exact Iff.rfl
  | @char c t u _ h ih =>
    cases hnext : next s c with
    | none => rw [hf.endsAtLast_done hnext, hf.endsAtLast_done hnext, h.eq_nil_iff]
    | some s' => rw [hf.endsAtLast_cons hnext, hf.endsAtLast_cons hnext, ih s']
  | @gap bl bl' t u c hbl hne hbl' hne' _ _ ih =>
    obtain ⟨s', hgap⟩ := hf.exists_behind_gap s
    rw [hgap bl _ hbl hne, hgap bl' _ hbl' hne', ih s']

end Scans

end EndpointManifest.Text
