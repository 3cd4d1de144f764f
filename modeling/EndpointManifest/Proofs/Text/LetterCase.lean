import EndpointManifest.Proofs.Text.Reader

/-! Which characters are the same letter as an ASCII letter: its two cases, and four characters
beyond ASCII. The tables are searched once, in `lowerRuns_image`; all else is read off it. -/

namespace EndpointManifest.Text

theorem toNat_ofNat_of_valid {n : Nat} (h : n.isValidChar) : (Char.ofNat n).toNat = n := by
  unfold Char.ofNat
  rw [dif_pos h]
  rfl

theorem eq_of_toNat {c d : Char} (h : c.toNat = d.toNat) : c = d :=
  Char.ext (UInt32.toNat_inj.1 h)

def smallOf (c : Char) : Nat := ((lowerChar c).head?.getD c).toNat

/-- No run of the table gives an ASCII letter or a variant of one, the Kelvin sign's apart. -/
theorem lowerRuns_image : ∀ run ∈ Table.lowerRuns,
    (0x7A < (run.first : Int) + run.offset ∨ run.first = 0x212A ∧ run.last = 0x212A) ∧
    (0x131 < (run.first : Int) + run.offset ∨ (run.last : Int) + run.offset < 0x131) ∧
    (0x17F < (run.first : Int) + run.offset ∨ (run.last : Int) + run.offset < 0x17F) ∧
    ((run.last : Int) + run.offset < 0xD800 ∨
      0xDFFF < (run.first : Int) + run.offset ∧ (run.last : Int) + run.offset < 0x110000) := by
  decide +kernel

theorem image?_eq_some {run : Table.CaseRun} {n m : Nat} (h : run.image? n = some m) :
    run.first ≤ n ∧ n ≤ run.last ∧ m = ((n : Int) + run.offset).toNat := by
  simp only [Table.CaseRun.image?] at h
  split at h
  · next hc =>
    simp only [Bool.and_eq_true, decide_eq_true_eq] at hc
    exact ⟨hc.1.1, hc.1.2, by simpa [eq_comm] using h⟩
  · cases h

/-- The small letter beyond ASCII: one special case, the character itself, or the image of a run. -/
theorem smallOf_beyond {c : Char} (hc : 128 ≤ c.toNat) :
    c = 'İ' ∨ smallOf c = c.toNat ∨ ∃ run ∈ Table.lowerRuns, run.first ≤ c.toNat ∧
      c.toNat ≤ run.last ∧ smallOf c = ((c.toNat : Int) + run.offset).toNat := by
  by_cases hdot : c.toNat = 0x130
  · exact .inl (eq_of_toNat hdot)
  have hlookup : Table.lowerSpecials.lookup c.toNat = none := by
    have : (c.toNat == 0x130) = false := by simpa using hdot
    simp only [Table.lowerSpecials, List.lookup_cons, List.lookup_nil, this]
  have hsmall : smallOf c =
      (Char.ofNat ((Table.lowerRuns.findSome? (·.image? c.toNat)).getD c.toNat)).toNat := by
    have hlow : ¬ c.toNat < 128 := by omega
    simp [smallOf, lowerChar, hlow, mapBeyondAscii, hlookup]
  cases hrun : Table.lowerRuns.findSome? (·.image? c.toNat) with
  | none =>
    rw [hrun, Option.getD_none, Char.ofNat_toNat] at hsmall
    exact .inr (.inl hsmall)
  | some m =>
    obtain ⟨run, hmem, himage⟩ := List.exists_of_findSome?_eq_some hrun
    obtain ⟨hlo, hhi, hm⟩ := image?_eq_some himage
    have hvalid := (lowerRuns_image run hmem).2.2.2
    rw [hrun, Option.getD_some, toNat_ofNat_of_valid (by simp only [Nat.isValidChar]; omega)]
      at hsmall
    exact .inr (.inr ⟨run, hmem, hlo, hhi, hsmall.trans hm⟩)

/-- Beyond ASCII, four characters have a small letter that is one of ASCII or a variant of one. -/
theorem eq_of_smallOf {c : Char} (hc : 128 ≤ c.toNat)
    (h : smallOf c ≤ 0x7A ∨ smallOf c = 0x131 ∨ smallOf c = 0x17F) :
    c = '\u212A' ∨ c = 'İ' ∨ c = 'ı' ∨ c = 'ſ' := by
  rcases smallOf_beyond hc with hdot | hself | ⟨run, hmem, hlo, hhi, hsmall⟩
  · exact .inr (.inl hdot)
  · have : c.toNat = 0x131 ∨ c.toNat = 0x17F := by omega
    exact this.elim (fun h => .inr (.inr (.inl (eq_of_toNat h))))
      fun h => .inr (.inr (.inr (eq_of_toNat h)))
  · obtain ⟨hascii, hdotless, hlong, _⟩ := lowerRuns_image run hmem
    exact .inl (eq_of_toNat (show c.toNat = 0x212A by omega))

theorem letterKey_eq (c : Char) : letterKey c =
    match letterVariants.find? (·.contains (smallOf c)) with
    | some (key :: _) => key
    | _ => smallOf c := rfl

/-- A letter key in ASCII belongs to a small letter that is the key itself or a variant of it. -/
theorem smallOf_of_letterKey {c : Char} (h : letterKey c < 128) :
    smallOf c = letterKey c ∨ smallOf c = 0x131 ∨ smallOf c = 0x17F := by
  have hgroups : ∀ group ∈ letterVariants, ∀ key ∈ group.head?, key < 128 →
      ∀ n ∈ group, n = key ∨ n = 0x131 ∨ n = 0x17F := by decide
  rw [letterKey_eq] at h ⊢
  cases hfind : letterVariants.find? (·.contains (smallOf c)) with
  | none => exact .inl rfl
  | some group =>
    have hmem := List.mem_of_find?_eq_some hfind
    have hin : smallOf c ∈ group := by simpa using List.find?_some hfind
    rw [hfind] at h
    cases group with
    | nil => exact .inl rfl
    | cons key rest => exact hgroups _ hmem key rfl h _ hin

theorem letterKey_ascii : ∀ n < 128,
    letterKey (Char.ofNat n) = if 65 ≤ n ∧ n ≤ 90 then n + 32 else n := by
  decide +kernel

theorem letterKey_of_ascii {c : Char} (h : c.toNat < 128) :
    letterKey c = if 65 ≤ c.toNat ∧ c.toNat ≤ 90 then c.toNat + 32 else c.toNat := by
  simpa [Char.ofNat_toNat] using letterKey_ascii c.toNat h

theorem isAsciiLetter_iff (c : Char) : isAsciiLetter c = true ↔
    97 ≤ c.toNat ∧ c.toNat ≤ 122 ∨ 65 ≤ c.toNat ∧ c.toNat ≤ 90 := by
  simp only [isAsciiLetter, isAsciiLower, isAsciiUpper, Bool.or_eq_true, Bool.and_eq_true,
    decide_eq_true_eq, Char.le_def, UInt32.le_iff_toNat_le]
  rfl

/-- The same letter as an ASCII letter: one of its two cases, or one of four characters more. -/
theorem sameLetter_ascii {a b : Char} (ha : isAsciiLetter a = true) (h : sameLetter a b = true) :
    (isAsciiLetter b = true ∧ letterKey b = letterKey a) ∨
      (b = '\u212A' ∧ letterKey a = 0x6B) ∨ (b = 'İ' ∧ letterKey a = 0x69) ∨
      (b = 'ı' ∧ letterKey a = 0x69) ∨ (b = 'ſ' ∧ letterKey a = 0x73) := by
  have hkey : letterKey a = letterKey b := by simpa [sameLetter] using h
  have ha' := (isAsciiLetter_iff a).1 ha
  have hkeya := letterKey_of_ascii (c := a) (by omega)
  by_cases hb : b.toNat < 128
  · left
    have hkeyb := letterKey_of_ascii hb
    refine ⟨(isAsciiLetter_iff b).2 ?_, hkey.symm⟩
    split at hkeya <;> split at hkeyb <;> omega
  · right
    have hsmall := smallOf_of_letterKey (c := b) (by split at hkeya <;> omega)
    rw [hkey]
    rcases eq_of_smallOf (c := b) (by omega) (by split at hkeya <;> omega) with rfl | rfl | rfl | rfl
    · exact .inl ⟨rfl, by decide⟩
    · exact .inr (.inl ⟨rfl, by decide⟩)
    · exact .inr (.inr (.inl ⟨rfl, by decide⟩))
    · exact .inr (.inr (.inr ⟨rfl, by decide⟩))

theorem isLatinLetter_of_sameLetter {a b : Char} (ha : isAsciiLetter a = true)
    (h : sameLetter a b = true) : isLatinLetter b = true := by
  rcases sameLetter_ascii ha h with ⟨hb, _⟩ | ⟨rfl, _⟩ | ⟨rfl, _⟩ | ⟨rfl, _⟩ | ⟨rfl, _⟩
  · simp [isLatinLetter, hb]
  all_goals decide

theorem isBlank_latin {c : Char} (h : isLatinLetter c = true) : isBlank c = false := by
  simp only [isLatinLetter, Bool.or_eq_true, beq_iff_eq, isAsciiLetter_iff] at h
  rcases h with (((h | rfl) | rfl) | rfl) | rfl
  · simp only [isBlank, Bool.or_eq_false_iff, Bool.and_eq_false_iff, decide_eq_false_iff_not,
      beq_eq_false_iff_ne]
    omega
  all_goals decide

/-- A mark before the small letters is the same letter as none but itself. -/
theorem eq_of_sameLetter_mark {a d : Char} (hd : d.toNat ≤ 0x7A) (hletter : isAsciiLetter d = false)
    (h : sameLetter d a = true) : a = d := by
  have hkey : letterKey a = letterKey d := by
    simp only [sameLetter, beq_iff_eq] at h
    exact h.symm
  have hnot := (isAsciiLetter_iff d).not.1 (by simp [hletter])
  have hkeyd := letterKey_of_ascii (c := d) (by omega)
  rw [if_neg (by omega)] at hkeyd
  by_cases ha : a.toNat < 128
  · have hkeya := letterKey_of_ascii ha
    refine eq_of_toNat ?_
    split at hkeya <;> omega
  · have hsmall := smallOf_of_letterKey (c := a) (by omega)
    have hlatin : letterKey a = 0x6B ∨ letterKey a = 0x69 ∨ letterKey a = 0x73 := by
      rcases eq_of_smallOf (c := a) (by omega) (by omega) with rfl | rfl | rfl | rfl
      · exact .inl (by decide)
      · exact .inr (.inl (by decide))
      · exact .inr (.inl (by decide))
      · exact .inr (.inr (by decide))
    omega

theorem upperChar_of_letter {c : Char} (h : isAsciiLetter c = true) :
    upperChar c = [Char.ofNat (letterKey c - 32)] := by
  have hc := (isAsciiLetter_iff c).1 h
  have hlow : isAsciiLower c = true ↔ 97 ≤ c.toNat ∧ c.toNat ≤ 122 := by
    simp only [isAsciiLower, Bool.and_eq_true, decide_eq_true_eq, Char.le_def,
      UInt32.le_iff_toNat_le]
    rfl
  rw [upperChar, if_pos (by omega), letterKey_of_ascii (by omega)]
  by_cases hcase : 97 ≤ c.toNat
  · rw [if_pos (hlow.2 (by omega)), if_neg (by omega)]
  · rw [if_neg (by rw [hlow]; omega), if_pos (by omega), Nat.add_sub_cancel, Char.ofNat_toNat]

/-- Letters other than i and k have the same capital in all their forms. -/
theorem upperChar_of_sameLetter {a b : Char} (ha : isAsciiLetter a = true)
    (hi : letterKey a ≠ 0x69) (hk : letterKey a ≠ 0x6B) (h : sameLetter a b = true) :
    upperChar b = upperChar a := by
  rcases sameLetter_ascii ha h with ⟨hb, hkey⟩ | ⟨_, h⟩ | ⟨_, h⟩ | ⟨_, h⟩ | ⟨rfl, hs⟩
  · rw [upperChar_of_letter hb, upperChar_of_letter ha, hkey]
  · exact absurd h hk
  · exact absurd h hi
  · exact absurd h hi
  · rw [upperChar_of_letter ha, hs]; decide

theorem SameLetters.symm {s t : Text} (h : SameLetters s t) : SameLetters t s := by
  refine h.flip.imp fun a b hab => ?_
  simp only [sameLetter, beq_iff_eq] at hab ⊢
  exact hab.symm

theorem SameLetters.keys_eq {s w : Text} (h : SameLetters s w) :
    s.map letterKey = w.map letterKey := by
  induction h with
  | nil => rfl
  | cons hab _ ih => rw [List.map_cons, List.map_cons, ih, beq_iff_eq.1 hab]

theorem SameLetters.exists_mem {s t : Text} (h : SameLetters s t) {a : Char} (ha : a ∈ s) :
    ∃ b ∈ t, sameLetter a b = true := by
  induction h with
  | nil => cases ha
  | cons hab _ ih =>
    rcases List.mem_cons.1 ha with rfl | ha
    · exact ⟨_, .head _, hab⟩
    · obtain ⟨b, hb, hsame⟩ := ih ha
      exact ⟨b, .tail _ hb, hsame⟩

theorem SameLetters.latin {s t : Text} (hs : ∀ c ∈ s, isAsciiLetter c = true)
    (h : SameLetters s t) : ∀ c ∈ t, isLatinLetter c = true := by
  induction h with
  | nil => simp
  | cons hab _ ih =>
    simp only [List.mem_cons, forall_eq_or_imp] at hs ⊢
    exact ⟨isLatinLetter_of_sameLetter hs.1 hab, ih hs.2⟩

theorem SameLetters.upper_eq {s t : Text}
    (hs : ∀ c ∈ s, isAsciiLetter c = true ∧ letterKey c ≠ 0x69 ∧ letterKey c ≠ 0x6B)
    (h : SameLetters s t) : upper t = upper s := by
  induction h with
  | nil => rfl
  | cons hab _ ih =>
    simp only [List.mem_cons, forall_eq_or_imp] at hs
    simp only [upper, List.flatMap_cons] at ih ⊢
    rw [upperChar_of_sameLetter hs.1.1 hs.1.2.1 hs.1.2.2 hab, ih hs.2]

end EndpointManifest.Text
