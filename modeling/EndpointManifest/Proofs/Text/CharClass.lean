import EndpointManifest.Proofs.Text.LetterCase

/-! No blank and no mark of punctuation is part of a word, so words end at them. -/

namespace EndpointManifest.Text

def blankPoints : List Nat :=
  [0x9, 0xA, 0xB, 0xC, 0xD, 0x1C, 0x1D, 0x1E, 0x1F, 0x20, 0x85, 0xA0, 0x1680, 0x2000, 0x2001,
   0x2002, 0x2003, 0x2004, 0x2005, 0x2006, 0x2007, 0x2008, 0x2009, 0x200A, 0x2028, 0x2029, 0x202F,
   0x205F, 0x3000]

theorem mem_blankPoints {c : Char} (h : isBlank c = true) : c.toNat ∈ blankPoints := by
  have hrun : ∀ first last, List.range' first (last + 1 - first) ⊆ blankPoints →
      first ≤ c.toNat ∧ c.toNat ≤ last → c.toNat ∈ blankPoints := by
    intro first last hrun hc
    exact hrun (List.mem_range'_1.2 ⟨hc.1, by omega⟩)
  simp only [isBlank, Bool.or_eq_true, Bool.and_eq_true, decide_eq_true_eq, beq_iff_eq] at h
  rcases h with (((((((((h | h) | h) | h) | h) | h) | h) | h) | h) | h) | h
  case inl.inl.inl.inl.inl.inl.inl.inl.inl.inl => exact hrun _ _ (by decide) h
  case inl.inl.inl.inl.inl.inl.inl.inl.inl.inr => exact hrun _ _ (by decide) h
  case inl.inl.inl.inl.inl.inr => exact hrun _ _ (by decide) h
  all_goals
    rw [h]
    decide

theorem lowerRuns_blank : ∀ run ∈ Table.lowerRuns, ∀ n ∈ blankPoints,
    (n : Int) < run.first + run.offset ∨ run.last + run.offset < (n : Int) := by
  decide +kernel

theorem eq_of_sameLetter_blank {a b : Char} (hb : isBlank b = true) (h : sameLetter a b = true) :
    a = b := by
  have hpoints : ∀ n ∈ blankPoints, letterKey (Char.ofNat n) = n := by decide
  have hrange : ∀ n ∈ blankPoints, 9 ≤ n ∧ n ≤ 0x20 ∨ 0x85 ≤ n := by decide
  have hmem := mem_blankPoints hb
  have hkey : letterKey a = b.toNat := by
    have hb' := hpoints _ hmem
    rw [Char.ofNat_toNat] at hb'
    exact (beq_iff_eq.1 h).trans hb'
  rw [← hkey] at hmem
  have hbounds := hrange _ hmem
  by_cases ha : a.toNat < 128
  · have hkeya := letterKey_of_ascii ha
    exact eq_of_toNat (by split at hkeya <;> omega)
  · have hvariants : ∀ group ∈ letterVariants, ∀ key ∈ group.head?, key ∉ blankPoints := by decide
    have hsmall : smallOf a = letterKey a := by
      rw [letterKey_eq] at hmem ⊢
      cases hfind : letterVariants.find? (·.contains (smallOf a)) with
      | none => rfl
      | some group =>
        rw [hfind] at hmem
        cases group with
        | nil => rfl
        | cons key rest => exact absurd hmem (hvariants _ (List.mem_of_find?_eq_some hfind) key rfl)
    rcases smallOf_beyond (c := a) (by omega) with rfl | hself | ⟨run, hrun, hlo, hhi, himage⟩
    · exact absurd hmem (by decide)
    · exact eq_of_toNat (by omega)
    · have := lowerRuns_blank run hrun _ hmem
      omega

theorem isAsciiDigit_iff (c : Char) : isAsciiDigit c = true ↔ 48 ≤ c.toNat ∧ c.toNat ≤ 57 := by
  simp only [isAsciiDigit, Bool.and_eq_true, decide_eq_true_eq, Char.le_def, UInt32.le_iff_toNat_le]
  rfl

theorem isWord_of_isBlank {c : Char} (h : isBlank c = true) : isWord c = false := by
  have hpoints : ∀ n ∈ blankPoints, isWord (Char.ofNat n) = false := by decide +kernel
  simpa [Char.ofNat_toNat] using hpoints _ (mem_blankPoints h)

theorem isKeyChar_of_isBlank {c : Char} (h : isBlank c = true) : isKeyChar c = false := by
  have hmark : ∀ mark, isBlank mark = false → c ≠ mark := by
    rintro _ hmark rfl
    exact absurd h (by rw [hmark]; decide)
  simp [isKeyChar, isNameChar, isWord_of_isBlank h, hmark '$' (by decide), hmark '-' (by decide)]

theorem isPathChar_of_isBlank {c : Char} (h : isBlank c = true) : isPathChar c = false := by
  have hkey := isKeyChar_of_isBlank h
  have hpoint : c ≠ '.' := by
    rintro rfl
    exact absurd h (by decide)
  simp only [isKeyChar, Bool.or_eq_false_iff] at hkey
  simp [isPathChar, hkey.1, hpoint]

theorem isKeyChar_of_isAsciiLetter {c : Char} (h : isAsciiLetter c = true) : isKeyChar c = true := by
  have hsmall : c.toNat < 128 := by
    have := (isAsciiLetter_iff c).1 h
    omega
  simp [isKeyChar, isNameChar, isWord, isAlphanumeric, hsmall, h]

theorem isWord_of_isLatinLetter {c : Char} (h : isLatinLetter c = true) : isWord c = true := by
  simp only [isLatinLetter, Bool.or_eq_true, beq_iff_eq] at h
  rcases h with (((h | rfl) | rfl) | rfl) | rfl
  · have hsmall : c.toNat < 128 := by
      have := (isAsciiLetter_iff c).1 h
      omega
    simp [isWord, isAlphanumeric, hsmall, h]
  all_goals decide +kernel

/-- The same letter as one of a key, or the same hyphen, is part of a key too. -/
theorem isKeyChar_of_sameLetter {a b : Char} (ha : isAsciiLetter a = true ∨ a = '-')
    (h : sameLetter a b = true) : isKeyChar b = true := by
  rcases ha with ha | rfl
  · have hword := isWord_of_isLatinLetter (isLatinLetter_of_sameLetter ha h)
    simp [isKeyChar, isNameChar, hword]
  · obtain rfl := eq_of_sameLetter_mark (by decide) (by decide) h
    decide

theorem SameLetters.keyChars {name word : Text}
    (hname : ∀ a ∈ name, isAsciiLetter a = true ∨ a = '-') (h : SameLetters name word) :
    ∀ c ∈ word, isKeyChar c = true := by
  induction h with
  | nil => simp
  | cons hab _ ih =>
    simp only [List.mem_cons, forall_eq_or_imp] at hname ⊢
    exact ⟨isKeyChar_of_sameLetter hname.1 hab, ih hname.2⟩

theorem isQuote_iff {c : Char} : isQuote c = true ↔ c = '\'' ∨ c = '"' ∨ c = '`' := by
  simp [isQuote, or_assoc]

end EndpointManifest.Text
