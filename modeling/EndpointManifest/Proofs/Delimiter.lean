import EndpointManifest.Delimiter
import EndpointManifest.Proofs.Text.Reader
import Mathlib.Data.List.Infix

/-! Where blocks and literals end. What follows an end changes nothing, and balanced text between
brackets is passed over whole. -/

namespace EndpointManifest.Delimiter

open Text

variable {o c : Char}

/-- In every front of the text at least as many brackets open as close, and as many in all. -/
def Balanced (o c : Char) (t : Text) : Prop :=
  t.count c = t.count o ∧ ∀ front, front <+: t → front.count c ≤ front.count o

instance (o c : Char) (t : Text) : Decidable (Balanced o c t) :=
  decidable_of_iff (t.count c = t.count o ∧ ∀ front ∈ t.inits, front.count c ≤ front.count o) <| by
    simp only [List.mem_inits, Balanced]

/-- A character that takes no other one with it is no backslash. -/
theorem not_slash {c : Char} {rest : Text} (hend : c = '\\' → rest = [] → False)
    (hslash : ∀ d tail, c = '\\' → rest = d :: tail → False) : c ≠ '\\' := by
  rintro rfl
  cases rest with
  | nil => exact hend rfl rfl
  | cons d tail => exact hslash d tail rfl rfl

theorem quoteFrom_cons {q d : Char} (hd : d ≠ '\\') (t : Text) :
    quoteFrom q (d :: t) = if d = q then some 0 else (quoteFrom q t).map (· + 1) := by
  rw [quoteFrom.eq_def]
  split <;> simp_all

theorem quoteFrom_split {q : Char} {n : Nat} {t : Text} (h : quoteFrom q t = some n) :
    ∃ inside after, t = inside ++ q :: after ∧ n = inside.length ∧
      ∀ v, quoteFrom q (inside ++ q :: v) = some n := by
  fun_induction quoteFrom q t generalizing n with
  | case1 => cases h
  | case2 => cases h
  | case3 d rest ih =>
    obtain ⟨k, hk, rfl⟩ := Option.map_eq_some_iff.1 h
    obtain ⟨inside, after, rfl, rfl, hend⟩ := ih hk
    refine ⟨'\\' :: d :: inside, after, rfl, rfl, fun v => ?_⟩
    simp only [List.cons_append, quoteFrom, hend, Option.map_some]
  | case4 rest hend hslash =>
    obtain rfl := Option.some.inj h
    have hq : q ≠ '\\' := not_slash hend hslash
    exact ⟨[], rest, rfl, rfl, fun v => by rw [List.nil_append, quoteFrom_cons hq, if_pos rfl]⟩
  | case5 d rest hend hslash hdq ih =>
    have hd : d ≠ '\\' := not_slash hend hslash
    obtain ⟨k, hk, rfl⟩ := Option.map_eq_some_iff.1 h
    obtain ⟨inside, after, rfl, rfl, hend⟩ := ih hk
    refine ⟨d :: inside, after, rfl, rfl, fun v => ?_⟩
    rw [List.cons_append, quoteFrom_cons hd, if_neg hdq, hend, Option.map_some]

theorem literalEnd?_split {n : Nat} {t : Text} (h : literalEnd? t = some n) :
    ∃ inside q after, t = inside ++ q :: after ∧ n = inside.length ∧
      ∀ v, literalEnd? (inside ++ q :: v) = some n := by
  cases t with
  | nil => cases h
  | cons q t =>
    simp only [literalEnd?] at h
    split_ifs at h with hq
    obtain ⟨k, hk, rfl⟩ := Option.map_eq_some_iff.1 h
    obtain ⟨inside, after, rfl, rfl, hend⟩ := quoteFrom_split hk
    refine ⟨q :: inside, q, after, rfl, rfl, fun v => ?_⟩
    rw [List.cons_append, literalEnd?, if_pos hq, hend, Option.map_some]

theorem literalEnd?_append {n : Nat} {u v : Text} (h : literalEnd? u = some n) :
    literalEnd? (u ++ v) = some n := by
  obtain ⟨inside, q, after, rfl, rfl, hend⟩ := literalEnd?_split h
  rw [List.append_assoc, List.cons_append, hend]

theorem closingFrom_open {depth : Nat} {u : Text} (hoc : o ≠ c)
    (h : ∀ front, front <+: u → front.count c < depth + front.count o) (v : Text) :
    closingFrom o c depth (u ++ v) =
      (closingFrom o c (depth + u.count o - u.count c) v).map (· + u.length) := by
  induction u generalizing depth with
  | nil => simp
  | cons d u ih =>
    have hfront (front : Text) (hf : front <+: u) :
        (d :: front).count c < depth + (d :: front).count o :=
      h (d :: front) ((List.prefix_cons_inj d).2 hf)
    rw [List.cons_append, closingFrom]
    split_ifs with ho hc hdepth
    · subst ho
      simp only [List.count_cons_self, List.count_cons_of_ne hoc] at hfront ⊢
      rw [ih fun front hf => by have := hfront front hf; omega]
      rw [show depth + 1 + u.count d - u.count c = depth + (u.count d + 1) - u.count c by omega]
      simp [Function.comp_def, Nat.add_assoc]
    · subst hc
      have := hfront [] (List.nil_prefix)
      simp only [List.count_cons_self, List.count_cons_of_ne ho, List.count_nil] at this
      omega
    · subst hc
      simp only [List.count_cons_self, List.count_cons_of_ne ho] at hfront ⊢
      rw [ih fun front hf => by have := hfront front hf; omega]
      rw [show depth - 1 + u.count o - u.count d = depth + u.count o - (u.count d + 1) by omega]
      simp [Function.comp_def, Nat.add_assoc]
    · simp only [List.count_cons_of_ne ho, List.count_cons_of_ne hc] at hfront ⊢
      rw [ih hfront]
      simp [Function.comp_def, Nat.add_assoc]

theorem closingFrom_balanced {u : Text} (hoc : o ≠ c) (h : Balanced o c u) (v : Text) :
    closingFrom o c 1 (u ++ c :: v) = some u.length := by
  obtain ⟨htotal, hfront⟩ := h
  rw [closingFrom_open hoc fun front hf => by have := hfront front hf; omega]
  rw [show 1 + u.count o - u.count c = 1 by omega, closingFrom]
  simp [hoc.symm]

theorem balanced_of_not_mem {u : Text} (ho : o ∉ u) (hc : c ∉ u) : Balanced o c u := by
  refine ⟨by rw [List.count_eq_zero.2 ho, List.count_eq_zero.2 hc], fun front hf => ?_⟩
  rw [List.count_eq_zero.2 fun h => hc (hf.subset h)]
  exact Nat.zero_le _

theorem Balanced.append {u v : Text} (hu : Balanced o c u) (hv : Balanced o c v) :
    Balanced o c (u ++ v) := by
  refine ⟨by rw [List.count_append, List.count_append, hu.1, hv.1], fun front hf => ?_⟩
  obtain ⟨back, hback⟩ := hf
  rcases List.append_eq_append_iff.1 hback with ⟨w, rfl, _⟩ | ⟨w, rfl, hw⟩
  · exact hu.2 front (List.prefix_append _ _)
  · have := hv.2 w ⟨back, hw.symm⟩
    rw [List.count_append, List.count_append, hu.1]
    omega

/-- Text without brackets changes nothing, wherever it is put in. -/
theorem Balanced.insert {u v x : Text} (h : Balanced o c (u ++ v)) (ho : o ∉ x) (hc : c ∉ x) :
    Balanced o c (u ++ (x ++ v)) := by
  have hnone (b : Char) (hb : b ∉ x) (y z : Text) :
      (y ++ (x ++ z)).count b = (y ++ z).count b := by
    rw [List.count_append, List.count_append, List.count_append, List.count_eq_zero.2 hb,
      Nat.zero_add]
  refine ⟨by rw [hnone c hc, hnone o ho, h.1], fun front ⟨back, hback⟩ => ?_⟩
  rcases List.append_eq_append_iff.1 hback with ⟨w, rfl, _⟩ | ⟨w, rfl, hw⟩
  · exact h.2 front ⟨w ++ v, (List.append_assoc ..).symm⟩
  · rcases List.append_eq_append_iff.1 hw with ⟨w', rfl, rfl⟩ | ⟨w', rfl, rfl⟩
    · rw [hnone c hc, hnone o ho]
      exact h.2 _ ⟨back, List.append_assoc ..⟩
    · rw [List.mem_append, not_or] at ho hc
      rw [List.count_append, List.count_append, List.count_eq_zero.2 ho.1,
        List.count_eq_zero.2 hc.1]
      exact h.2 u (List.prefix_append u v)

theorem Balanced.block {u : Text} (hoc : o ≠ c) (h : Balanced o c u) :
    Balanced o c (o :: (u ++ [c])) := by
  refine ⟨by simp [hoc, hoc.symm, h.1], fun front hf => ?_⟩
  cases front with
  | nil => simp
  | cons d front =>
    obtain ⟨rfl, hfront⟩ := List.cons_prefix_cons.1 hf
    rw [List.count_cons_of_ne hoc, List.count_cons_self]
    rcases List.prefix_concat_iff.1 hfront with rfl | hfront
    · simp [hoc.symm, h.1]
    · have := h.2 front hfront
      omega

theorem ne_of_closer? (h : closer? o = some c) : o ≠ c := by
  unfold closer? at h
  split_ifs at h with h₁ h₂ h₃
  · obtain rfl := Option.some.inj h
    rw [h₁]
    decide
  · obtain rfl := Option.some.inj h
    rw [h₂]
    decide
  · obtain rfl := Option.some.inj h
    rw [h₃]
    decide

/-- A block around balanced text ends at the bracket behind the text. -/
theorem blockEnd?_closed {u : Text} (hclose : closer? o = some c) (h : Balanced o c u) (v : Text) :
    blockEnd? (o :: (u ++ c :: v)) = some (u.length + 1) := by
  rw [blockEnd?, hclose]
  show Option.map (· + 1) (closingFrom o c 1 (u ++ c :: v)) = _
  rw [closingFrom_balanced (ne_of_closer? hclose) h]
  rfl

/-- With `depth` brackets open before the text, one is left open after it, and some are all along. -/
def LeavesOne (o c : Char) (depth : Nat) (t : Text) : Prop :=
  t.count c + 1 = depth + t.count o ∧
    ∀ front, front <+: t → front.count c < depth + front.count o

theorem LeavesOne.cons {depth depth' : Nat} {d : Char} {t : Text} (h : LeavesOne o c depth' t)
    (hdepth : 0 < depth) (hstep : depth + [d].count o = depth' + [d].count c) :
    LeavesOne o c depth (d :: t) := by
  have hcount (b : Char) (u : Text) : (d :: u).count b = [d].count b + u.count b := by
    rw [← List.singleton_append, List.count_append]
  refine ⟨?_, fun front hfront => ?_⟩
  · rw [hcount c t, hcount o t]
    have := h.1
    omega
  · rcases List.prefix_cons_iff.1 hfront with rfl | ⟨front, rfl, hbelow⟩
    · simpa using hdepth
    · rw [hcount c front, hcount o front]
      have := h.2 front hbelow
      omega

/-- Where the count of open brackets first goes down to none, a closing bracket stands. -/
theorem exists_of_closingFrom {depth n : Nat} {t : Text} (hoc : o ≠ c) (hdepth : 0 < depth)
    (h : closingFrom o c depth t = some n) :
    ∃ inside after, t = inside ++ c :: after ∧ n = inside.length ∧ LeavesOne o c depth inside := by
  induction t generalizing depth n with
  | nil => simp [closingFrom] at h
  | cons d t ih =>
    unfold closingFrom at h
    split_ifs at h with ho hc hlast
    · subst ho
      obtain ⟨k, hk, rfl⟩ := Option.map_eq_some_iff.1 h
      obtain ⟨inside, after, rfl, rfl, hopen⟩ := ih (Nat.succ_pos depth) hk
      exact ⟨d :: inside, after, rfl, rfl, hopen.cons hdepth (by simp [hoc])⟩
    · subst hc
      obtain rfl := Option.some.inj h
      refine ⟨[], t, rfl, rfl, ?_, fun front hfront => ?_⟩
      · rw [List.count_nil, List.count_nil]
        omega
      · rw [List.prefix_nil.1 hfront]
        simpa using hdepth
    · subst hc
      obtain ⟨k, hk, rfl⟩ := Option.map_eq_some_iff.1 h
      obtain ⟨inside, after, rfl, rfl, hopen⟩ := ih (by omega) hk
      refine ⟨d :: inside, after, rfl, rfl, hopen.cons hdepth ?_⟩
      rw [List.count_singleton_self, List.count_singleton, if_neg (by simpa using ho)]
      omega
    · obtain ⟨k, hk, rfl⟩ := Option.map_eq_some_iff.1 h
      obtain ⟨inside, after, rfl, rfl, hopen⟩ := ih hdepth hk
      exact ⟨d :: inside, after, rfl, rfl, hopen.cons hdepth (by simp [ho, hc])⟩

/-- A block is an opening bracket, balanced text and the bracket that closes it. -/
theorem blockEnd?_eq_some {t : Text} {n : Nat} :
    blockEnd? t = some n ↔ ∃ o c inside after, closer? o = some c ∧ Balanced o c inside ∧
      t = o :: (inside ++ c :: after) ∧ n = inside.length + 1 := by
  constructor
  · intro h
    cases t with
    | nil => cases h
    | cons o t =>
      obtain ⟨c, hclose, h⟩ := Option.bind_eq_some_iff.1 h
      obtain ⟨k, hk, rfl⟩ := Option.map_eq_some_iff.1 h
      obtain ⟨inside, after, rfl, rfl, htotal, hfront⟩ :=
        exists_of_closingFrom (ne_of_closer? hclose) Nat.one_pos hk
      refine ⟨o, c, inside, after, hclose, ⟨by omega, fun front hprefix => ?_⟩, rfl, rfl⟩
      have := hfront front hprefix
      omega
  · rintro ⟨o, c, inside, after, hclose, hbalanced, rfl, rfl⟩
    exact blockEnd?_closed hclose hbalanced after

theorem blockEnd?_append {n : Nat} {u v : Text} (h : blockEnd? u = some n) :
    blockEnd? (u ++ v) = some n := by
  obtain ⟨o, c, inside, after, hclose, hbalanced, rfl, rfl⟩ := blockEnd?_eq_some.1 h
  exact blockEnd?_eq_some.2 ⟨o, c, inside, after ++ v, hclose, hbalanced, by simp, rfl⟩

/-- The end of a block or literal within the front of a text is found whatever follows the front. -/
theorem swap_of_split {f : Text → Option Nat} {u v inside after : Text} {d : Char}
    (h : u ++ v = inside ++ d :: after) (hend : ∀ w, f (inside ++ d :: w) = some inside.length)
    (hn : inside.length < u.length) (w : Text) : f (u ++ w) = some inside.length := by
  obtain ⟨back, rfl⟩ : ∃ back, u = inside ++ d :: back := by
    rcases List.append_eq_append_iff.1 h with ⟨x, rfl, _⟩ | ⟨x, rfl, hx⟩
    · rw [List.length_append] at hn
      omega
    · cases x with
      | nil => simp at hn
      | cons e x =>
        obtain ⟨rfl, _⟩ := List.cons.inj hx
        exact ⟨x, rfl⟩
  rw [List.append_assoc, List.cons_append, hend]

theorem blockEnd?_swap {u v : Text} {n : Nat} (h : blockEnd? (u ++ v) = some n)
    (hn : n < u.length) (w : Text) : blockEnd? (u ++ w) = some n := by
  obtain ⟨o, c, inside, after, hclose, hbalanced, hsplit, rfl⟩ := blockEnd?_eq_some.1 h
  exact @swap_of_split _ _ _ (o :: inside) _ _ hsplit (blockEnd?_closed hclose hbalanced) hn w

theorem literalEnd?_swap {u v : Text} {n : Nat} (h : literalEnd? (u ++ v) = some n)
    (hn : n < u.length) (w : Text) : literalEnd? (u ++ w) = some n := by
  obtain ⟨inside, q, after, hsplit, rfl, hend⟩ := literalEnd?_split h
  exact swap_of_split hsplit hend hn w

theorem matching?_of_drop {t rest : Text} {a : Nat} (h : t.drop a = rest) :
    matching? t a = (blockEnd? rest).map (a + ·) := by
  rw [matching?, if_neg (by omega), Int.toNat_natCast, h]

theorem closingQuote?_of_drop {t rest : Text} {a : Nat} (h : t.drop a = rest) :
    closingQuote? t a = (literalEnd? rest).map (a + ·) := by
  rw [closingQuote?, if_neg (by omega), Int.toNat_natCast, h]

end EndpointManifest.Delimiter
