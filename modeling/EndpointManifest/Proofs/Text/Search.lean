import EndpointManifest.Text.Search
import Mathlib.Data.List.Basic

/-! What a search finds. A position of a text is a split `u ++ v`, and `endOf b u` is the character
before it. The search passes over a stretch without matches, takes a match whole, and goes on behind
it; so what it finds ascends, and the first find is the leftmost match of all. -/

namespace EndpointManifest.Text

variable {α : Type} {p : Pattern α}

/-- The last character of a text that `before` precedes. -/
def endOf (before : Option Char) : Text → Option Char
  | [] => before
  | c :: u => endOf (some c) u

theorem endOf_append (b : Option Char) (u v : Text) : endOf b (u ++ v) = endOf (endOf b u) v := by
  induction u generalizing b with
  | nil => rfl
  | cons c u ih => exact ih (some c)

@[simp] theorem endOf_snoc (b : Option Char) (u : Text) (c : Char) :
    endOf b (u ++ [c]) = some c := by
  rw [endOf_append]; rfl

/-- Nowhere in the stretch `u`, with `v` after it, is there a match. -/
def Quiet (p : Pattern α) (b : Option Char) (u v : Text) : Prop :=
  ∀ x c y, u = x ++ c :: y → p (endOf b x) (c :: y ++ v) = none

theorem quiet_nil (b : Option Char) (v : Text) : Quiet p b [] v := by
  intro x c y h
  simp at h

theorem quiet_of_no_match {b : Option Char} {u v : Text}
    (h : ∀ x c y r, u = x ++ c :: y → p (endOf b x) (c :: y ++ v) ≠ some r) : Quiet p b u v := by
  intro x c y hsplit
  apply Option.eq_none_iff_forall_ne_some.2
  intro r
  exact h x c y r hsplit

theorem quiet_of_first {q : Char → Bool} (hp : ∀ {b c t r}, p b (c :: t) = some r → q c = true)
    {u : Text} (hu : ∀ c ∈ u, q c = false) (b : Option Char) (v : Text) : Quiet p b u v := by
  apply quiet_of_no_match
  rintro x c y r rfl hmatch
  have hc := hu c (by simp)
  rw [hp hmatch] at hc
  cases hc

theorem quiet_cons {b : Option Char} {c : Char} {u v : Text} :
    Quiet p b (c :: u) v ↔ p b (c :: u ++ v) = none ∧ Quiet p (some c) u v := by
  constructor
  · intro h
    refine ⟨h [] c u rfl, fun x d y hu => ?_⟩
    exact h (c :: x) d y (by rw [hu]; rfl)
  · rintro ⟨hc, hu⟩ x d y h
    cases x with
    | nil => obtain ⟨rfl, rfl⟩ := List.cons.inj h; exact hc
    | cons e x =>
      obtain ⟨rfl, rfl⟩ := List.cons.inj h
      exact hu x d y rfl

theorem quiet_append {b : Option Char} {u u' v : Text} :
    Quiet p b (u ++ u') v ↔ Quiet p b u (u' ++ v) ∧ Quiet p (endOf b u) u' v := by
  induction u generalizing b with
  | nil => simp [quiet_nil, endOf]
  | cons c u ih =>
    rw [List.cons_append, quiet_cons, quiet_cons, ih, ← and_assoc]
    simp [endOf]

theorem findAllFrom_skip (b : Option Char) (pos skip : Nat) (t : Text) :
    findAllFrom p b pos skip t =
      findAllFrom p (endOf b (t.take skip)) (pos + skip) 0 (t.drop skip) := by
  induction t generalizing b pos skip with
  | nil => cases skip <;> rfl
  | cons c t ih =>
    cases skip with
    | zero => rfl
    | succ skip =>
      rw [findAllFrom, ih, List.take_succ_cons, List.drop_succ_cons]
      simp [endOf, Nat.add_assoc, Nat.add_comm 1]

theorem findAllFrom_quiet {b : Option Char} {u v : Text} (pos : Nat) (h : Quiet p b u v) :
    findAllFrom p b pos 0 (u ++ v) = findAllFrom p (endOf b u) (pos + u.length) 0 v := by
  induction u generalizing b pos with
  | nil => rfl
  | cons c u ih =>
    obtain ⟨hc, hu⟩ := quiet_cons.1 h
    rw [List.cons_append] at hc ⊢
    rw [findAllFrom, hc, ih (pos + 1) hu]
    simp [endOf, Nat.add_assoc, Nat.add_comm 1]

theorem findAllFrom_hit {b : Option Char} {m v : Text} {a : α} (pos : Nat) (hm : m ≠ [])
    (h : p b (m ++ v) = some (a, v)) :
    findAllFrom p b pos 0 (m ++ v) =
      ⟨pos, a⟩ :: findAllFrom p (endOf b m) (pos + m.length) 0 v := by
  cases m with
  | nil => exact absurd rfl hm
  | cons c m =>
    rw [List.cons_append] at h ⊢
    have hlen : (m ++ v).length - v.length = m.length := by simp
    rw [findAllFrom, h]
    simp only [hlen]
    rw [findAllFrom_skip, List.take_left, List.drop_left]
    simp [endOf, Nat.add_assoc, Nat.add_comm 1]

/-- One match between two stretches without any. -/
theorem findAllFrom_single {b : Option Char} {u m w v : Text} {a : α} (pos : Nat)
    (hu : Quiet p b u (m ++ (w ++ v))) (hm : m ≠ [])
    (hp : p (endOf b u) (m ++ (w ++ v)) = some (a, w ++ v))
    (hw : Quiet p (endOf b (u ++ m)) w v) :
    findAllFrom p b pos 0 (u ++ (m ++ w) ++ v) = ⟨pos + u.length, a⟩ ::
      findAllFrom p (endOf b (u ++ (m ++ w))) (pos + (u ++ (m ++ w)).length) 0 v := by
  rw [endOf_append] at hw
  rw [List.append_assoc, List.append_assoc, findAllFrom_quiet pos hu, findAllFrom_hit _ hm hp,
    findAllFrom_quiet _ hw, endOf_append, endOf_append, List.length_append, List.length_append,
    ← Nat.add_assoc, ← Nat.add_assoc]

theorem findAll_nil_of_quiet {t : Text} (h : Quiet p none t []) : findAll p t = [] := by
  have := findAllFrom_quiet 0 h
  rw [List.append_nil] at this
  exact this

theorem mem_findAllFrom {b : Option Char} {pos skip : Nat} {t : Text} {f : Found α}
    (h : f ∈ findAllFrom p b pos skip t) :
    pos + skip ≤ f.start ∧ ∃ u c v after, t = u ++ c :: v ∧ f.start = pos + u.length ∧
      p (endOf b u) (c :: v) = some (f.value, after) := by
  induction t generalizing b pos skip with
  | nil => cases skip <;> simp [findAllFrom] at h
  | cons c t ih =>
    have later {skip'} (h' : f ∈ findAllFrom p (some c) (pos + 1) skip' t) :
        pos + 1 + skip' ≤ f.start ∧ ∃ u d v after, c :: t = u ++ d :: v ∧
          f.start = pos + u.length ∧ p (endOf b u) (d :: v) = some (f.value, after) := by
      obtain ⟨hle, u, d, v, after, rfl, hs, hp⟩ := ih h'
      exact ⟨hle, c :: u, d, v, after, rfl, by rw [hs, List.length_cons]; omega, hp⟩
    cases skip with
    | succ skip =>
      obtain ⟨hle, hrest⟩ := later h
      exact ⟨by omega, hrest⟩
    | zero =>
      rw [findAllFrom] at h
      cases hp : p b (c :: t) with
      | none =>
        rw [hp] at h
        obtain ⟨hle, hrest⟩ := later h
        exact ⟨by omega, hrest⟩
      | some r =>
        rw [hp, List.mem_cons] at h
        rcases h with rfl | h
        · exact ⟨Nat.le_refl _, [], c, t, r.2, rfl, rfl, hp⟩
        · obtain ⟨hle, hrest⟩ := later h
          exact ⟨by omega, hrest⟩

theorem match_of_mem_findAll {t : Text} {f : Found α} (h : f ∈ findAll p t) :
    ∃ u v after, t = u ++ v ∧ f.start = u.length ∧ p (endOf none u) v = some (f.value, after) := by
  obtain ⟨_, u, c, v, after, ht, hs, hp⟩ := mem_findAllFrom h
  exact ⟨u, c :: v, after, ht, by omega, hp⟩

theorem findAllFrom_pairwise (b : Option Char) (pos skip : Nat) (t : Text) :
    (findAllFrom p b pos skip t).Pairwise (·.start < ·.start) := by
  induction t generalizing b pos skip with
  | nil => cases skip <;> exact .nil
  | cons c t ih =>
    cases skip with
    | succ skip => exact ih ..
    | zero =>
      rw [findAllFrom]
      split
      · refine List.pairwise_cons.2 ⟨fun f hf => ?_, ih ..⟩
        have := (mem_findAllFrom hf).1
        show pos < f.start
        omega
      · exact ih ..

theorem findAll_pairwise (p : Pattern α) (t : Text) :
    (findAll p t).Pairwise (·.start < ·.start) :=
  findAllFrom_pairwise ..

/-- A find begins behind what every find before it took. -/
theorem findAllFrom_apart (b : Option Char) (pos skip : Nat) (t : Text) :
    (findAllFrom p b pos skip t).Pairwise fun f g => ∀ u v after, t = u ++ v →
      f.start = pos + u.length → p (endOf b u) v = some (f.value, after) →
        pos + t.length ≤ g.start + after.length := by
  induction t generalizing b pos skip with
  | nil => cases skip <;> exact .nil
  | cons c t ih =>
    have later (skip' : Nat) : (findAllFrom p (some c) (pos + 1) skip' t).Pairwise fun f g =>
        ∀ u v after, c :: t = u ++ v → f.start = pos + u.length →
          p (endOf b u) v = some (f.value, after) →
            pos + (c :: t).length ≤ g.start + after.length := by
      refine (ih (some c) (pos + 1) skip').imp_of_mem fun {f g} hf _ h u v after ht hs hp => ?_
      have hle := (mem_findAllFrom hf).1
      cases u with
      | nil =>
        rw [hs, List.length_nil] at hle
        omega
      | cons d u =>
        obtain ⟨rfl, rfl⟩ := List.cons.inj ht
        have hend := h u v after rfl (by rw [hs, List.length_cons]; omega) hp
        rw [List.length_cons]
        omega
    cases skip with
    | succ skip => exact later skip
    | zero =>
      rw [findAllFrom]
      cases hp : p b (c :: t) with
      | none => exact later 0
      | some r =>
        refine List.pairwise_cons.2 ⟨fun g hg u v after ht hs hmatch => ?_, later _⟩
        have hle := (mem_findAllFrom hg).1
        have hnil : u.length = 0 := by
          have hs : pos = pos + u.length := hs
          omega
        obtain rfl := List.length_eq_zero_iff.1 hnil
        obtain rfl : c :: t = v := ht
        rw [endOf, hp] at hmatch
        have hafter : r.2 = after := congrArg Prod.snd (Option.some.inj hmatch)
        rw [hafter] at hle
        rw [List.length_cons]
        omega

theorem findAll_apart (p : Pattern α) (t : Text) :
    (findAll p t).Pairwise fun f g => ∀ u v after, t = u ++ v → f.start = u.length →
      p (endOf none u) v = some (f.value, after) → t.length ≤ g.start + after.length := by
  simpa [findAll] using @findAllFrom_apart _ p none 0 0 t

/-- No match of the pattern begins inside another. -/
def Apart (p : Pattern α) : Prop :=
  ∀ b c t a rest, p b (c :: t) = some (a, rest) → ∃ m, t = m ++ rest ∧ Quiet p (some c) m rest

/-- So the search, which goes on behind each match, passes over none. -/
theorem mem_findAllFrom_of_apart (hp : Apart p) {b : Option Char} {pos : Nat} {u v after : Text}
    {f : Found α} (hv : v ≠ []) (hs : f.start = pos + u.length)
    (hmatch : p (endOf b u) v = some (f.value, after)) : f ∈ findAllFrom p b pos 0 (u ++ v) := by
  cases u with
  | nil =>
    obtain ⟨c, v, rfl⟩ := List.exists_cons_of_ne_nil hv
    rw [endOf] at hmatch
    rw [List.nil_append, findAllFrom, hmatch]
    have hf : f = ⟨pos, f.value⟩ := by rw [← show f.start = pos from hs]
    exact List.mem_cons.2 (.inl hf)
  | cons c u =>
    rw [List.cons_append]
    cases hfront : p b (c :: (u ++ v)) with
    | none =>
      rw [findAllFrom, hfront]
      exact mem_findAllFrom_of_apart hp hv (by rw [hs, List.length_cons]; omega) hmatch
    | some r =>
      obtain ⟨m, hsplit, hquiet⟩ := hp b c (u ++ v) r.1 r.2 hfront
      rw [hsplit] at hfront ⊢
      rw [← List.cons_append, findAllFrom_hit pos (by simp) hfront]
      have behind (d : Text) (hu : u = m ++ d) (hrest : r.2 = d ++ v) :
          f ∈ findAllFrom p (endOf b (c :: m)) (pos + (c :: m).length) 0 r.2 := by
        have hlen : d.length < (c :: u).length := by
          rw [hu, List.length_cons, List.length_append]
          omega
        have hstart : f.start = pos + (c :: m).length + d.length := by
          rw [hs, hu, List.length_cons, List.length_cons, List.length_append]
          omega
        have hmatch : p (endOf (endOf b (c :: m)) d) v = some (f.value, after) := by
          rwa [← endOf_append, List.cons_append, ← hu]
        rw [hrest]
        exact mem_findAllFrom_of_apart hp hv hstart hmatch
      refine .tail _ ?_
      rcases List.append_eq_append_iff.1 hsplit with ⟨d, hd, hrest⟩ | ⟨d, hu, hrest⟩
      · cases d with
        | nil => exact behind [] (by simpa using hd.symm) (by simpa using hrest.symm)
        | cons e d =>
          have hnone := hquiet u e d hd
          rw [← hrest, show endOf (some c) u = endOf b (c :: u) from rfl, hmatch] at hnone
          cases hnone
      · exact behind d hu hrest
termination_by u.length

/-- What the search finds are then all the matches. -/
theorem mem_findAll_iff (hp : Apart p) {t : Text} {f : Found α} :
    f ∈ findAll p t ↔ ∃ u v after, v ≠ [] ∧ t = u ++ v ∧ f.start = u.length ∧
      p (endOf none u) v = some (f.value, after) := by
  constructor
  · intro h
    obtain ⟨_, u, c, v, after, ht, hs, hmatch⟩ := mem_findAllFrom h
    exact ⟨u, c :: v, after, by simp, ht, by omega, hmatch⟩
  · rintro ⟨u, v, after, hv, rfl, hs, hmatch⟩
    exact mem_findAllFrom_of_apart hp hv (by omega) hmatch

/-- Of finds that ascend the first one with a property has the least start. -/
theorem find?_eq_some_of_pairwise {q : Found α → Bool} {l : List (Found α)} {f : Found α}
    (hl : l.Pairwise (·.start < ·.start)) (h : l.find? q = some f) :
    ∀ g ∈ l, q g = true → g = f ∨ f.start < g.start := by
  obtain ⟨_, front, back, rfl, hfront⟩ := List.find?_eq_some_iff_append.1 h
  intro g hg hq
  rcases List.mem_append.1 hg with hg | hg
  · have := hfront g hg
    rw [hq] at this
    cases this
  rcases List.mem_cons.1 hg with rfl | hg
  · exact .inl rfl
  · exact .inr ((List.pairwise_cons.1 (List.pairwise_append.1 hl).2.1).1 g hg)

theorem head?_findAllFrom {b : Option Char} {pos : Nat} {t : Text} {f : Found α} :
    (findAllFrom p b pos 0 t).head? = some f ↔
      ∃ u v after, v ≠ [] ∧ t = u ++ v ∧ f.start = pos + u.length ∧
        p (endOf b u) v = some (f.value, after) ∧ Quiet p b u v := by
  constructor
  · intro h
    induction t generalizing b pos with
    | nil => simp [findAllFrom] at h
    | cons c t ih =>
      rw [findAllFrom] at h
      cases hp : p b (c :: t) with
      | some r =>
        rw [hp] at h
        obtain rfl : ⟨pos, r.1⟩ = f := by simpa using h
        exact ⟨[], c :: t, r.2, by simp, rfl, rfl, hp, quiet_nil b _⟩
      | none =>
        rw [hp] at h
        obtain ⟨u, v, after, hv, rfl, hs, hpv, hq⟩ := ih h
        refine ⟨c :: u, v, after, hv, rfl, by rw [hs, List.length_cons]; omega, hpv, ?_⟩
        exact quiet_cons.2 ⟨hp, hq⟩
  · rintro ⟨u, v, after, hv, rfl, hs, hp, hq⟩
    rw [findAllFrom_quiet pos hq]
    obtain ⟨c, v, rfl⟩ := List.exists_cons_of_ne_nil hv
    rw [findAllFrom, hp, ← hs]
    rfl

/-- The first find is a match before which there is none. -/
theorem find?_eq_some {t : Text} {f : Found α} :
    find? p t = some f ↔ ∃ u v after, v ≠ [] ∧ t = u ++ v ∧ f.start = u.length ∧
      p (endOf none u) v = some (f.value, after) ∧ Quiet p none u v := by
  rw [find?, findAll, head?_findAllFrom]
  simp

theorem head?_findAllFrom_eq_none {b : Option Char} {pos : Nat} {t : Text} :
    (findAllFrom p b pos 0 t).head? = none ↔ Quiet p b t [] := by
  induction t generalizing b pos with
  | nil => simp [findAllFrom, quiet_nil]
  | cons c t ih =>
    rw [quiet_cons, List.append_nil, findAllFrom]
    cases hp : p b (c :: t) with
    | some r => simp
    | none => simpa using ih

theorem find?_eq_none {t : Text} : find? p t = none ↔ Quiet p none t [] :=
  head?_findAllFrom_eq_none

def first? (p : Pattern α) : Option Char → Text → Option α
  | _, [] => none
  | b, c :: t =>
    match p b (c :: t) with
    | some r => some r.1
    | none => first? p (some c) t

theorem first?_of_match {p : Pattern α} {b : Option Char} {t : Text} {r : α × Text} (ht : t ≠ [])
    (h : p b t = some r) : first? p b t = some r.1 := by
  cases t with
  | nil => exact absurd rfl ht
  | cons c t => rw [first?, h]

theorem find?_value (p : Pattern α) (t : Text) : (find? p t).map (·.value) = first? p none t := by
  have hfrom (b : Option Char) (pos : Nat) :
      (findAllFrom p b pos 0 t).head?.map (·.value) = first? p b t := by
    induction t generalizing b pos with
    | nil => rfl
    | cons c t ih =>
      rw [findAllFrom, first?]
      cases p b (c :: t) with
      | some r => rfl
      | none => exact ih (some c) (pos + 1)
  exact hfrom none 0

theorem first?_quiet {b : Option Char} {u v : Text} (h : Quiet p b u v) :
    first? p b (u ++ v) = first? p (endOf b u) v := by
  induction u generalizing b with
  | nil => rfl
  | cons c u ih =>
    obtain ⟨hc, hu⟩ := quiet_cons.1 h
    rw [List.cons_append] at hc ⊢
    rw [first?, hc]
    exact ih hu

theorem first?_isSome {b : Option Char} {t : Text} : (first? p b t).isSome = true ↔
    ∃ x c y, t = x ++ c :: y ∧ (p (endOf b x) (c :: y)).isSome = true := by
  induction t generalizing b with
  | nil => simp [first?]
  | cons c t ih =>
    rw [first?]
    cases hp : p b (c :: t) with
    | some r => exact ⟨fun _ => ⟨[], c, t, rfl, by rw [endOf, hp]; rfl⟩, fun _ => rfl⟩
    | none =>
      simp only [ih]
      constructor
      · rintro ⟨x, d, y, rfl, h⟩
        exact ⟨c :: x, d, y, rfl, h⟩
      · rintro ⟨x, d, y, hsplit, h⟩
        cases x with
        | nil =>
          obtain ⟨rfl, rfl⟩ := List.cons.inj hsplit
          rw [endOf, hp] at h
          cases h
        | cons e x =>
          obtain ⟨rfl, rfl⟩ := List.cons.inj hsplit
          exact ⟨x, d, y, rfl, h⟩

/-- What the first match that begins in the stretch `u`, with `v` after it, recognises. -/
def firstWithin? (p : Pattern α) : Option Char → (u v : Text) → Option α
  | _, [], _ => none
  | b, c :: u, v =>
    match p b (c :: u ++ v) with
    | some r => some r.1
    | none => firstWithin? p (some c) u v

theorem first?_split (b : Option Char) (u v : Text) :
    first? p b (u ++ v) = (firstWithin? p b u v).or (first? p (endOf b u) v) := by
  induction u generalizing b with
  | nil => rfl
  | cons c u ih =>
    rw [List.cons_append, first?, firstWithin?, List.cons_append]
    cases p b (c :: (u ++ v)) with
    | some r => rfl
    | none => exact ih (some c)

theorem firstWithin?_quiet {b : Option Char} {u v : Text} (h : Quiet p b u v) :
    firstWithin? p b u v = none := by
  induction u generalizing b with
  | nil => rfl
  | cons c u ih =>
    obtain ⟨hc, hu⟩ := quiet_cons.1 h
    rw [firstWithin?, hc]
    exact ih hu

/-- Where no match of the stretch needs what comes after it, nothing depends on that. -/
theorem firstWithin?_local {b : Option Char} {u v : Text}
    (h : ∀ x c y, u = x ++ c :: y →
      (p (endOf b x) (c :: y ++ v)).map (·.1) = (p (endOf b x) (c :: y)).map (·.1)) :
    firstWithin? p b u v = first? p b u := by
  induction u generalizing b with
  | nil => rfl
  | cons c u ih =>
    have hc := h [] c u rfl
    have hu := ih (b := some c) fun x d y hu => h (c :: x) d y (by rw [hu]; rfl)
    rw [firstWithin?, first?]
    simp only [endOf] at hc
    cases hp : p b (c :: u ++ v) with
    | some r =>
      rw [hp] at hc
      obtain ⟨r', hr', hrr'⟩ := Option.map_eq_some_iff.1 hc.symm
      simp [hr', hrr']
    | none =>
      rw [hp] at hc
      have hnone : p b (c :: u) = none := Option.map_eq_none_iff.1 hc.symm
      simpa [hnone] using hu

/-- The first match of a text in two parts, where no match of the front needs the back. -/
theorem first?_append {b : Option Char} {u v : Text}
    (h : ∀ x c y, u = x ++ c :: y →
      (p (endOf b x) (c :: y ++ v)).map (·.1) = (p (endOf b x) (c :: y)).map (·.1)) :
    first? p b (u ++ v) = (first? p b u).or (first? p (endOf b u) v) := by
  rw [first?_split, firstWithin?_local h]

end EndpointManifest.Text
