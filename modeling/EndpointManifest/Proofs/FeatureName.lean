import EndpointManifest.FeatureName
import EndpointManifest.Proofs.Text.Words

/-! A humanized name is in a normal form, and the names in that form are those that are left as they
are. Each pass parts some neighbours by a space, and a space is no letter and no digit: so no pass
brings together what an earlier one parted. -/

namespace EndpointManifest.FeatureName

open Text

variable {p q : Char → Bool}

def Apart (p q : Char → Bool) (t : Text) : Prop := t.IsChain fun a b => ¬(p a = true ∧ q b = true)

theorem head_spaceBetween (p q : Char → Bool) (t : Text) :
    (spaceBetween p q t).head? = t.head? := by
  fun_cases spaceBetween p q t <;> rfl

/-- What holds of all neighbours that are not parted holds of all of the result, if it holds of
whatever a space follows and of whatever follows a space. -/
theorem isChain_spaceBetween {R : Char → Char → Prop} (hleft : ∀ a, R a ' ')
    (hright : ∀ b, R ' ' b) {t : Text}
    (h : t.IsChain fun a b => (p a && q b) = true ∨ R a b) : (spaceBetween p q t).IsChain R := by
  fun_induction spaceBetween p q t with
  | case1 => exact .nil
  | case2 c => exact .singleton c
  | case3 c d rest hparted ih =>
    have hrest := List.isChain_cons.2 ⟨fun e _ => hright e, ih h.tail⟩
    exact List.isChain_cons_cons.2 ⟨hleft c, hrest⟩
  | case4 c d rest hkept ih =>
    refine List.isChain_cons.2 ⟨fun e he => ?_, ih h.tail⟩
    rw [head_spaceBetween] at he
    obtain rfl := Option.some.inj he
    exact (List.isChain_cons_cons.1 h).1.resolve_left hkept

theorem apart_spaceBetween (hp : p ' ' = false) (hq : q ' ' = false) (t : Text) :
    Apart p q (spaceBetween p q t) := by
  refine isChain_spaceBetween (by simp [hq]) (by simp [hp]) ?_
  refine List.isChain_iff_getElem.2 fun n hn => ?_
  rw [Bool.and_eq_true]
  exact Classical.em _

theorem Apart.spaceBetween {p' q' : Char → Bool} {t : Text} (h : Apart p' q' t)
    (hp : p' ' ' = false) (hq : q' ' ' = false) : Apart p' q' (spaceBetween p q t) :=
  isChain_spaceBetween (by simp [hq]) (by simp [hp]) (h.imp fun _ _ hab => .inr hab)

theorem spaceBetween_of_apart {t : Text} (h : Apart p q t) : spaceBetween p q t = t := by
  fun_induction spaceBetween p q t with
  | case1 => rfl
  | case2 c => rfl
  | case3 c d rest hparted ih =>
    rw [Bool.and_eq_true] at hparted
    exact absurd hparted (List.isChain_cons_cons.1 h).1
  | case4 c d rest hkept ih => rw [ih h.tail]

theorem filter_spaceBetween {f : Char → Bool} (hf : f ' ' = false) (t : Text) :
    (spaceBetween p q t).filter f = t.filter f := by
  fun_induction spaceBetween p q t with
  | case1 => rfl
  | case2 c => rfl
  | case3 c d rest hparted ih =>
    rw [List.filter_cons, List.filter_cons_of_neg (by simp [hf]), ih, ← List.filter_cons]
  | case4 c d rest hkept ih => rw [List.filter_cons, ih, ← List.filter_cons]

/-- An underscore stands for the space between two words. -/
def unscored (c : Char) : Char := if c = '_' then ' ' else c

theorem unscored_eq (c : Char) : unscored c = c ∨ unscored c = ' ' := by
  unfold unscored
  split
  · exact .inr rfl
  · exact .inl rfl

theorem Apart.map_unscored {t : Text} (h : Apart p q t) (hp : p ' ' = false)
    (hq : q ' ' = false) : Apart p q (t.map unscored) := by
  refine List.isChain_map_of_isChain unscored (fun a b hab => ?_) h
  rintro ⟨ha, hb⟩
  rcases unscored_eq a with hkept | hspace
  · rcases unscored_eq b with hkept' | hspace
    · exact hab ⟨hkept ▸ ha, hkept' ▸ hb⟩
    · rw [hspace, hq] at hb
      cases hb
  · rw [hspace, hp] at ha
    cases ha

theorem filter_map_unscored (t : Text) : (t.map unscored).filter (!isBlank ·) =
    t.filter fun c => !isBlank c && c != '_' := by
  induction t with
  | nil => rfl
  | cons c t ih =>
    by_cases hc : c = '_'
    · subst hc
      simpa [unscored, show isBlank ' ' = true by decide] using ih
    · simp [unscored, hc, List.filter_cons, ih]

/-- The form of a name as words: no underscore, no capital letter behind a small one, no digit
behind a letter, and single spaces inside as the only blanks. -/
structure Humanized (y : Text) : Prop where
  no_underscore : '_' ∉ y
  no_camel : Apart isAsciiLower isAsciiUpper y
  no_number : Apart isAsciiLetter isDecimalDigit y
  blank_eq : ∀ c ∈ y, isBlank c = true → c = ' '
  single : NoBlankPair y
  trimmed : Trimmed y

theorem humanize_eq (x : Text) : humanize x = trim (collapseBlanks
    ((spaceBetween isAsciiLetter isDecimalDigit (spaceBetween isAsciiLower isAsciiUpper x)).map
      unscored)) := rfl

/-- Nothing but blanks and underscores is lost, and nothing but blanks is added. -/
theorem filter_humanize (x : Text) : (humanize x).filter (!isBlank ·) =
    x.filter fun c => !isBlank c && c != '_' := by
  rw [humanize_eq, filter_trim, filter_collapseBlanks, filter_map_unscored,
    filter_spaceBetween (by decide), filter_spaceBetween (by decide)]

theorem humanized_humanize (x : Text) : Humanized (humanize x) := by
  -- a space comes between no two neighbours that either pass parts
  have hkeeps (p q : Char → Bool) (hp : p ' ' = false) (hq : q ' ' = false)
      (h : Apart p q (spaceBetween isAsciiLetter isDecimalDigit
        (spaceBetween isAsciiLower isAsciiUpper x))) : Apart p q (humanize x) := by
    rw [humanize_eq]
    have hcollapsed : Apart p q (collapseBlanks _) :=
      isChain_collapseBlanks (by simp [hq]) (by simp [hp]) (h.map_unscored hp hq)
    exact List.IsChain.infix hcollapsed (trim_isInfix _)
  refine ⟨fun h => ?_, ?_, ?_, fun c hc hb => ?_, ?_, ?_⟩
  · have hmem : '_' ∈ (humanize x).filter (!isBlank ·) := List.mem_filter.2 ⟨h, by decide⟩
    rw [filter_humanize] at hmem
    simp at hmem
  · exact hkeeps _ _ (by decide) (by decide)
      ((apart_spaceBetween (by decide) (by decide) x).spaceBetween (by decide) (by decide))
  · exact hkeeps _ _ (by decide) (by decide) (apart_spaceBetween (by decide) (by decide) _)
  · exact blank_collapseBlanks c (trim_subset hc) hb
  · exact List.IsChain.infix (noBlankPair_collapseBlanks _) (trim_isInfix _)
  · exact trimmed_trim _

theorem Humanized.humanize_eq_self {y : Text} (h : Humanized y) : humanize y = y := by
  have hmap : y.map unscored = y := by
    conv_rhs => rw [← List.map_id y]
    refine List.map_congr_left fun c hc => if_neg ?_
    rintro rfl
    exact h.no_underscore hc
  rw [humanize_eq, spaceBetween_of_apart h.no_camel, spaceBetween_of_apart h.no_number, hmap,
    collapseBlanks_of_noBlankPair h.single h.blank_eq, trim_of_trimmed h.trimmed]

/-- Humanizing a name brings it into the form of words, keeps all that is neither blank nor an
underscore in order, and leaves a name in that form as it is; and no other. -/
theorem humanize_normalises (x : Text) :
    Humanized (humanize x) ∧
    (humanize x).filter (!isBlank ·) = x.filter (fun c => !isBlank c && c != '_') ∧
    humanize (humanize x) = humanize x ∧
    (humanize x = x ↔ Humanized x) := by
  have hform := humanized_humanize x
  refine ⟨hform, filter_humanize x, hform.humanize_eq_self, fun h => ?_,
    Humanized.humanize_eq_self⟩
  rwa [h] at hform

example : humanize "WidgetAdmin_v2".toList = "Widget Admin v 2".toList := by decide +kernel

end EndpointManifest.FeatureName
