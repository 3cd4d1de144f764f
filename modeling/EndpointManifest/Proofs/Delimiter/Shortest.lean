import EndpointManifest.Proofs.Delimiter
import EndpointManifest.Proofs.Text.Slice

/-! Which bracket closes a block: the first one up to which, from the opening bracket on, as many
brackets of the kind close as open. The block is an opening bracket, balanced text and a closing
one, and what follows is read off that split: a block is found in every slice that holds it, and two
blocks of one kind never overlap in part. -/

namespace EndpointManifest.Delimiter

open Text

variable {o c : Char} {t : Text} {start start' r r' : Nat}

/-- From the opening bracket at `start` on, as many brackets close as open up to `r`, and fewer up
to every position before it. -/
structure Closes (o c : Char) (t : Text) (start r : Nat) : Prop where
  opens : t[start]? = some o
  pair : closer? o = some c
  start_le : start ≤ r
  lt_length : r < t.length
  equal : (t.slice start (r + 1)).count c = (t.slice start (r + 1)).count o
  open_before : ∀ k, start ≤ k → k < r →
    (t.slice start (k + 1)).count c < (t.slice start (k + 1)).count o

/-- A balanced text no front of which is balanced but the empty one and the whole. -/
def Prime (o c : Char) (u : Text) : Prop :=
  Balanced o c u ∧ ∀ front, front <+: u → front ≠ [] → front ≠ u → ¬ Balanced o c front

def brackets (o c : Char) (u : Text) : Text := u.filter fun d => d == o || d == c

theorem matching?_eq_some : matching? t start = some r ↔
    ∃ o c inside, closer? o = some c ∧ Balanced o c inside ∧ Cut o c t start r inside := by
  rw [matching?_of_drop rfl, Option.map_eq_some_iff]
  constructor
  · rintro ⟨n, hn, rfl⟩
    obtain ⟨o, c, inside, after, hpair, hbalanced, hsplit, rfl⟩ := blockEnd?_eq_some.1 hn
    exact ⟨o, c, inside, hpair, hbalanced, ⟨after, hsplit⟩, rfl⟩
  · rintro ⟨o, c, inside, hpair, hbalanced, ⟨after, hsplit⟩, rfl⟩
    exact ⟨_, blockEnd?_eq_some.2 ⟨o, c, inside, after, hpair, hbalanced, hsplit, rfl⟩, rfl⟩

theorem Closes.exists_cut (h : Closes o c t start r) : ∃ inside, Cut o c t start r inside := by
  have hne : o ≠ c := ne_of_closer? h.pair
  have hlt : start < r := by
    refine Nat.lt_of_le_of_ne h.start_le ?_
    rintro rfl
    have hequal := h.equal
    rw [slice_one h.opens] at hequal
    simp [hne] at hequal
  obtain ⟨d, hd⟩ : ∃ d, t[r]? = some d := ⟨_, List.getElem?_eq_getElem h.lt_length⟩
  -- up to the position before some bracket is open, so the last character closes one
  have hbefore := h.open_before (r - 1) (by omega) (by omega)
  have hequal := h.equal
  rw [show r - 1 + 1 = r by omega] at hbefore
  rw [slice_append h.start_le (Nat.le_succ r), slice_one hd, List.count_append,
    List.count_append] at hequal
  have hdc : d = c := by
    by_contra hdc
    simp only [List.count_singleton, beq_iff_eq, if_neg hdc] at hequal
    omega
  exact Text.exists_cut h.opens (hdc ▸ hd) hlt

theorem count_block (hne : o ≠ c) (u : Text) : (o :: (u ++ [c])).count c = u.count c + 1 ∧
    (o :: (u ++ [c])).count o = u.count o + 1 := by
  simp [hne, hne.symm]

/-- Counting the brackets from the opening one on says that those inside are balanced. -/
theorem closes_iff_balanced {inside : Text} (h : Cut o c t start r inside)
    (hpair : closer? o = some c) : Closes o c t start r ↔ Balanced o c inside := by
  have hne : o ≠ c := ne_of_closer? hpair
  have hends := h.ends
  constructor
  · intro hcloses
    have hequal := hcloses.equal
    rw [h.slice_whole, (count_block hne inside).1, (count_block hne inside).2] at hequal
    refine ⟨by omega, fun front hfront => ?_⟩
    have hlength := hfront.length_le
    have hopen := hcloses.open_before (start + front.length) (by omega) (by omega)
    rw [h.slice_front hlength, ← List.prefix_iff_eq_take.1 hfront, List.count_cons_of_ne hne,
      List.count_cons_self] at hopen
    omega
  · intro hbalanced
    obtain ⟨hlt, hlength⟩ := h.bounds
    refine ⟨h.getElem?.1, hpair, Nat.le_of_lt hlt, hlength, ?_, fun k hk hkr => ?_⟩
    · rw [h.slice_whole, (count_block hne inside).1, (count_block hne inside).2, hbalanced.1]
    · have hfront := hbalanced.2 _ (List.take_prefix (k - start) inside)
      have hslice := h.slice_front (show k - start ≤ inside.length by omega)
      rw [show start + (k - start) = k by omega] at hslice
      rw [hslice, List.count_cons_of_ne hne, List.count_cons_self]
      omega

theorem balanced_brackets {u : Text} : Balanced o c (brackets o c u) ↔ Balanced o c u := by
  have hcount (v : Text) : (brackets o c v).count o = v.count o ∧
      (brackets o c v).count c = v.count c :=
    ⟨List.count_filter (by simp), List.count_filter (by simp)⟩
  constructor
  · intro h
    refine ⟨by rw [← (hcount u).1, ← (hcount u).2, h.1], fun front hfront => ?_⟩
    rw [← (hcount front).1, ← (hcount front).2]
    exact h.2 _ (hfront.filter _)
  · intro h
    refine ⟨by rw [(hcount u).1, (hcount u).2, h.1], fun front hfront => ?_⟩
    obtain ⟨front, hbelow, rfl⟩ := List.prefix_filter_iff.1 hfront
    have := h.2 front hbelow
    rwa [← (hcount front).1, ← (hcount front).2] at this

/-- A pair of brackets around a text gives a prime one if and only if the text is balanced. -/
theorem prime_block {u : Text} (hne : o ≠ c) :
    Prime o c (o :: (u ++ [c])) ↔ Balanced o c u := by
  constructor
  · rintro ⟨⟨htotal, hfronts⟩, hshortest⟩
    rw [(count_block hne u).1, (count_block hne u).2] at htotal
    refine ⟨by omega, fun front hfront => ?_⟩
    have hwhole : o :: front <+: o :: (u ++ [c]) :=
      (List.prefix_cons_inj o).2 (hfront.trans (List.prefix_append u [c]))
    have hbelow := hfronts _ hwhole
    have hlength := hfront.length_le
    -- as many as open would close the block before its end
    have hopen : (o :: front).count c ≠ (o :: front).count o := by
      refine fun hequal => hshortest _ hwhole (List.cons_ne_nil o front) (fun heq => ?_)
        ⟨hequal, fun front' hfront' => hfronts _ (hfront'.trans hwhole)⟩
      have := congrArg List.length heq
      simp only [List.length_cons, List.length_append, List.length_nil] at this
      omega
    rw [List.count_cons_of_ne hne, List.count_cons_self] at hbelow hopen
    omega
  · intro h
    refine ⟨h.block hne, fun front hfront hnil hwhole hbalanced => ?_⟩
    obtain ⟨d, front, rfl⟩ := List.exists_cons_of_ne_nil hnil
    obtain ⟨rfl, hrest⟩ := List.cons_prefix_cons.1 hfront
    rcases List.prefix_concat_iff.1 hrest with rfl | hrest
    · exact hwhole rfl
    · have hequal := hbalanced.1
      rw [List.count_cons_of_ne hne, List.count_cons_self] at hequal
      have := h.2 front hrest
      omega

/-- The same said of the brackets alone: they are a prime word, and the last of them is at `r`. -/
theorem closes_iff_prime : Closes o c t start r ↔ t[start]? = some o ∧ closer? o = some c ∧
    start ≤ r ∧ t[r]? = some c ∧ Prime o c (brackets o c (t.slice start (r + 1))) := by
  have hprime {inside : Text} (hpair : closer? o = some c) (h : Cut o c t start r inside) :
      Prime o c (brackets o c (t.slice start (r + 1))) ↔ Closes o c t start r := by
    have hword : brackets o c (t.slice start (r + 1)) = o :: (brackets o c inside ++ [c]) := by
      simp [h.slice_whole, brackets]
    rw [hword, prime_block (ne_of_closer? hpair), balanced_brackets, closes_iff_balanced h hpair]
  constructor
  · intro h
    obtain ⟨inside, hcut⟩ := h.exists_cut
    exact ⟨h.opens, h.pair, h.start_le, hcut.getElem?.2, (hprime h.pair hcut).2 h⟩
  · rintro ⟨hopens, hpair, hle, hends, hword⟩
    have hne : start ≠ r := by
      rintro rfl
      exact ne_of_closer? hpair (Option.some.inj (hopens.symm.trans hends))
    obtain ⟨inside, hcut⟩ := Text.exists_cut hopens hends (by omega)
    exact (hprime hpair hcut).1 hword

theorem matching?_iff_closes : matching? t start = some r ↔ ∃ o c, Closes o c t start r := by
  rw [matching?_eq_some]
  constructor
  · rintro ⟨o, c, inside, hpair, hbalanced, hcut⟩
    exact ⟨o, c, (closes_iff_balanced hcut hpair).2 hbalanced⟩
  · rintro ⟨o, c, h⟩
    obtain ⟨inside, hcut⟩ := h.exists_cut
    exact ⟨o, c, inside, h.pair, (closes_iff_balanced hcut h.pair).1 h, hcut⟩

theorem matching?_slice (h : matching? t start = some r) {a e : Nat} (ha : a ≤ start) (he : r < e) :
    matching? (t.slice a e) (start - a : Nat) = some (r - a) := by
  obtain ⟨o, c, inside, hpair, hbalanced, hcut⟩ := matching?_eq_some.1 h
  exact matching?_eq_some.2 ⟨o, c, inside, hpair, hbalanced, hcut.slice ha he⟩

theorem Closes.nested (h : Closes o c t start r) (h' : Closes o c t start' r')
    (hlt : start < start') (hinside : start' ≤ r) : r' < r := by
  have hcount (k : Nat) (hk : start' ≤ k) (b : Char) : (t.slice start (k + 1)).count b =
      (t.slice start start').count b + (t.slice start' (k + 1)).count b := by
    rw [slice_append (Nat.le_of_lt hlt) (Nat.le_succ_of_le hk), List.count_append]
  -- the brackets before the inner block leave one open
  have hopen := h.open_before (start' - 1) (by omega) (by omega)
  rw [show start' - 1 + 1 = start' by omega] at hopen
  have hequal := h.equal
  rw [hcount r hinside, hcount r hinside] at hequal
  rcases Nat.lt_trichotomy r r' with hbehind | rfl | hwithin
  · have := h'.open_before r hinside hbehind
    omega
  · have := h'.equal
    omega
  · exact hwithin

def EndsBlock (t : Text) (start : Int) (r : Nat) : Prop :=
  ∃ (s : Nat) (o c : Char), start = s ∧ Closes o c t s r

theorem matching?_iff_endsBlock {start : Int} :
    matching? t start = some r ↔ EndsBlock t start r := by
  rcases Int.lt_or_le start 0 with hneg | hpos
  · rw [matching?, if_pos hneg]
    constructor
    · intro h
      cases h
    · rintro ⟨s, _, _, rfl, _⟩
      omega
  · obtain ⟨s, rfl⟩ := Int.eq_ofNat_of_zero_le hpos
    rw [matching?_iff_closes]
    constructor
    · rintro ⟨o, c, h⟩
      exact ⟨s, o, c, rfl, h⟩
    · rintro ⟨s', o, c, hs, h⟩
      obtain rfl := Int.ofNat.inj hs
      exact ⟨o, c, h⟩

/-- A block is closed by the bracket up to which, for the first time, as many brackets of its kind
close as open; those brackets alone are then a prime word. There is no more than one such bracket,
and none if no closing one is found. The block is found in every slice that holds it, and lies apart
from another of its kind, or one within the other. -/
theorem matching?_shortest (t : Text) (start : Int) :
    (∀ r, matching? t start = some r ↔ EndsBlock t start r) ∧
    (matching? t start = none ↔ ∀ r, ¬ EndsBlock t start r) ∧
    (∀ r r', EndsBlock t start r → EndsBlock t start r' → r = r') ∧
    (∀ r, EndsBlock t start r ↔ ∃ (s : Nat) (o c : Char), start = s ∧ t[s]? = some o ∧
      closer? o = some c ∧ s ≤ r ∧ t[r]? = some c ∧
      Prime o c (brackets o c (t.slice s (r + 1)))) ∧
    ∀ r, matching? t start = some r →
      (∀ a e : Nat, a ≤ start → r < e →
        matching? (t.slice a e) (start - a) = some (r - a)) ∧
      (∀ (start' : Int) (r' : Nat), matching? t start' = some r' →
        t[start'.toNat]? = t[start.toNat]? → start < start' → r < start' ∨ r' < r) := by
  refine ⟨fun r => matching?_iff_endsBlock, ?_, fun r r' h h' => ?_, fun r => ?_,
    fun r h => ⟨fun a e ha he => ?_, fun start' r' h' hkind hlt => ?_⟩⟩
  · rw [Option.eq_none_iff_forall_ne_some]
    exact forall_congr' fun r => not_congr matching?_iff_endsBlock
  · exact Option.some.inj ((matching?_iff_endsBlock.2 h).symm.trans (matching?_iff_endsBlock.2 h'))
  · simp only [EndsBlock, closes_iff_prime]
  · obtain ⟨s, _, _, rfl, _⟩ := matching?_iff_endsBlock.1 h
    have hslice := matching?_slice h (Int.ofNat_le.1 ha) he
    rwa [Int.ofNat_sub (Int.ofNat_le.1 ha)] at hslice
  · obtain ⟨s, o, c, rfl, hcloses⟩ := matching?_iff_endsBlock.1 h
    obtain ⟨s', o', c', rfl, hcloses'⟩ := matching?_iff_endsBlock.1 h'
    obtain rfl : o' = o := by
      rw [Int.toNat_natCast, Int.toNat_natCast, hcloses.opens, hcloses'.opens] at hkind
      exact Option.some.inj hkind
    obtain rfl : c' = c := Option.some.inj (hcloses'.pair.symm.trans hcloses.pair)
    by_cases hinside : s' ≤ r
    · exact .inr (hcloses.nested hcloses' (by omega) hinside)
    · exact .inl (by omega)

/-- Two blocks of one kind, with one of another kind between them and a bracket that is not closed
behind them. -/
theorem matching?_shortest_nested :
    let t := "x(a[(b)]c)(d".toList
    matching? t 1 = some 9 ∧ matching? t 4 = some 6 ∧ matching? (slice t 1 10) 0 = some 8 ∧
      ((9 : Int) < 4 ∨ 6 < 9) ∧ ∀ r, ¬ EndsBlock t 10 r := by
  intro t
  have houter : matching? t 1 = some 9 := by decide
  have hinner : matching? t 4 = some 6 := by decide
  obtain ⟨-, -, -, -, hfound⟩ := matching?_shortest t 1
  obtain ⟨hslice, hapart⟩ := hfound 9 houter
  refine ⟨houter, hinner, hslice 1 10 (by decide) (by decide),
    hapart 4 6 hinner (by decide) (by decide), ?_⟩
  exact (matching?_shortest t 10).2.1.1 (by decide)

end EndpointManifest.Delimiter
