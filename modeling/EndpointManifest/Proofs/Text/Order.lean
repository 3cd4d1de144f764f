import EndpointManifest.Text.Order

/-! The order of texts is total, so that sorting different texts gives a strictly rising list. -/

namespace EndpointManifest.Text

theorem le_total (s t : Text) : le s t = true ∨ le t s = true := by
  induction s generalizing t with
  | nil => exact .inl rfl
  | cons a s ih =>
    cases t with
    | nil => exact .inr rfl
    | cons b t =>
      by_cases hab : a = b
      · subst hab
        simpa [le] using ih t
      · have hne : a.toNat ≠ b.toNat := fun h => hab (Char.toNat_inj.1 h)
        simp only [le, if_neg hab, if_neg (Ne.symm hab), decide_eq_true_eq]
        omega

theorem le_antisymm {s t : Text} (hst : le s t = true) (hts : le t s = true) : s = t := by
  induction s generalizing t with
  | nil =>
    cases t with
    | nil => rfl
    | cons b t => simp [le] at hts
  | cons a s ih =>
    cases t with
    | nil => simp [le] at hst
    | cons b t =>
      by_cases hab : a = b
      · subst hab
        simp only [le, if_true] at hst hts
        rw [ih hst hts]
      · simp only [le, if_neg hab, if_neg (Ne.symm hab), decide_eq_true_eq] at hst hts
        omega

theorem le_trans {s t u : Text} (hst : le s t = true) (htu : le t u = true) : le s u = true := by
  induction s generalizing t u with
  | nil => rfl
  | cons a s ih =>
    cases t with
    | nil => simp [le] at hst
    | cons b t =>
      cases u with
      | nil => simp [le] at htu
      | cons c u =>
        simp only [le] at hst htu ⊢
        by_cases hab : a = b
        · subst hab
          simp only [if_true] at hst
          by_cases hac : a = c
          · rw [if_pos hac] at htu ⊢
            exact ih hst htu
          · rw [if_neg hac] at htu ⊢
            exact htu
        · simp only [if_neg hab, decide_eq_true_eq] at hst
          split at htu
          · next hbc =>
            subst hbc
            simpa [hab] using hst
          · simp only [decide_eq_true_eq] at htu
            have hac : a ≠ c := by
              rintro rfl
              omega
            simp only [if_neg hac, decide_eq_true_eq]
            omega

def Before (s t : Text) : Prop := le s t = true ∧ s ≠ t

theorem Before.asymm {s t : Text} (h : Before s t) : ¬ Before t s :=
  fun h' => h.2 (le_antisymm h.1 h'.1)

theorem mem_sortedByKey {α : Type} {entries : List (Text × α)} {entry : Text × α} :
    entry ∈ sortedByKey entries ↔ entry ∈ entries :=
  List.mem_mergeSort

theorem mem_sorted {texts : List Text} {t : Text} : t ∈ sorted texts ↔ t ∈ texts :=
  List.mem_mergeSort

theorem pairwise_mergeSort {α : Type} (f : α → Text) {l : List α} (h : (l.map f).Nodup) :
    (l.mergeSort fun a b => le (f a) (f b)).Pairwise fun a b => Before (f a) (f b) := by
  have htrans : ∀ a b c : α, le (f a) (f b) = true → le (f b) (f c) = true →
      le (f a) (f c) = true := by
    intro a b c
    exact le_trans
  have htotal : ∀ a b : α, (le (f a) (f b) || le (f b) (f a)) = true := by
    intro a b
    rw [Bool.or_eq_true]
    exact le_total (f a) (f b)
  have hsorted : (l.mergeSort fun a b => le (f a) (f b)).Pairwise fun a b =>
      le (f a) (f b) = true :=
    List.pairwise_mergeSort htrans htotal l
  have hnodup := ((List.mergeSort_perm l fun a b => le (f a) (f b)).map f).nodup_iff.2 h
  exact hsorted.imp₂ (fun _ _ hle hne => ⟨hle, hne⟩) (List.pairwise_map.1 hnodup)

theorem pairwise_sortedByKey {α : Type} {entries : List (Text × α)}
    (h : (entries.map (·.1)).Nodup) :
    (sortedByKey entries).Pairwise fun a b => Before a.1 b.1 :=
  pairwise_mergeSort Prod.fst h

theorem pairwise_sorted {texts : List Text} (h : texts.Nodup) :
    (sorted texts).Pairwise Before :=
  pairwise_mergeSort id (by rwa [List.map_id])

end EndpointManifest.Text
