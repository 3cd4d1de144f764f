import EndpointManifest.Proofs.Text.CharClass

/-! Numbers in decimal digits: what `ofNat` writes is read back, it is written in digits alone, and
only zero starts with a zero. -/

namespace EndpointManifest.Text

theorem isAsciiDigit_of_mem_ofNat {n : Nat} {c : Char} (h : c ∈ ofNat n) : isAsciiDigit c = true := by
  have hdigit := Nat.isDigit_of_mem_toDigits (by decide) (by decide) h
  rw [isAsciiDigit_iff]
  simpa [Char.isDigit, UInt32.le_iff_toNat_le] using hdigit

theorem ofNat_ne_nil (n : Nat) : ofNat n ≠ [] := Nat.toDigits_ne_nil

theorem exists_ofNat_eq (n : Nat) :
    ∃ c ds, ofNat n = c :: ds ∧ ∀ d, isAsciiDigit d = false → c ≠ d := by
  obtain ⟨c, ds, hds⟩ := List.exists_cons_of_ne_nil (ofNat_ne_nil n)
  have hc : isAsciiDigit c = true := isAsciiDigit_of_mem_ofNat (n := n) (by simp [hds])
  refine ⟨c, ds, hds, ?_⟩
  rintro d hd rfl
  exact absurd hc (by simp [hd])

theorem natOfDigits_ofNat (n : Nat) : natOfDigits (ofNat n) = n := by
  have hfold : natOfDigits (ofNat n) = Nat.ofDigitChars 10 (Nat.toDigits 10 n) 0 := by
    simp only [natOfDigits, ofNat, Nat.ofDigitChars_eq_foldl, Nat.mul_comm 10]
    rfl
  rw [hfold, Nat.ofDigitChars_ten_toDigits]

theorem ofNat_of_zero {n : Nat} {rest : Text} (h : ofNat n = '0' :: rest) : n = 0 := by
  induction n using Nat.strong_induction_on generalizing rest with
  | h n ih =>
    rw [ofNat, Nat.toDigits_eq_if (by decide)] at h
    split at h
    · next hsmall =>
      have hdigits : ∀ n < 10, Nat.digitChar n = '0' → n = 0 := by decide
      exact hdigits n hsmall (List.cons.inj h).1
    · next hlarge =>
      obtain ⟨c, front, hfront⟩ := List.exists_cons_of_ne_nil (ofNat_ne_nil (n / 10))
      rw [ofNat] at hfront
      rw [hfront, List.cons_append] at h
      have hzero := ih (n / 10) (by omega) ((List.cons.inj h).1 ▸ hfront)
      omega

theorem span_ofNat (n : Nat) {rest : Text}
    (hrest : ∀ c ∈ rest.head?, isAsciiDigit c = false) :
    (ofNat n ++ rest).span isAsciiDigit = (ofNat n, rest) := by
  have hall : ∀ c ∈ ofNat n, isAsciiDigit c = true := fun c hc => isAsciiDigit_of_mem_ofNat hc
  exact span_eq_iff.2 ⟨rfl, hall, hrest⟩

end EndpointManifest.Text
