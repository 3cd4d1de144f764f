import EndpointManifest.Text.Blank
import Mathlib.Data.List.Infix

/-! Positions of a text against its splits: a slice between two positions, and a text cut at the
characters that stand at two positions. -/

namespace EndpointManifest.Text

def slice (t : Text) (a e : Nat) : Text := (t.drop a).take (e - a)

variable {t : Text} {a b e n : Nat} {c d : Char}

theorem slice_append (hab : a ≤ b) (hbe : b ≤ e) (t : Text) :
    slice t a e = slice t a b ++ slice t b e := by
  have hlength : e - a = (b - a) + (e - b) := by omega
  have hdrop : (t.drop a).drop (b - a) = t.drop b := by
    rw [List.drop_drop, Nat.add_sub_cancel' hab]
  rw [slice, slice, slice, hlength, List.take_add, hdrop]

theorem slice_one (h : t[n]? = some c) : slice t n (n + 1) = [c] := by
  rw [slice, Nat.add_sub_cancel_left, List.take_one, List.head?_drop, h, Option.toList_some]

theorem drop_slice (hab : a ≤ b) (t : Text) (e : Nat) :
    (slice t a e).drop (b - a) = slice t b e := by
  rw [slice, slice, List.drop_take, List.drop_drop, Nat.add_sub_cancel' hab,
    show e - a - (b - a) = e - b by omega]

theorem drop_of_getElem? (h : t[n]? = some c) : t.drop n = c :: t.drop (n + 1) := by
  obtain ⟨hn, rfl⟩ := List.getElem?_eq_some_iff.1 h
  exact List.drop_eq_getElem_cons hn

structure Cut (c d : Char) (t : Text) (a e : Nat) (inside : Text) : Prop where
  split : ∃ after, t.drop a = c :: (inside ++ d :: after)
  ends : e = a + inside.length + 1

theorem exists_cut (hc : t[a]? = some c) (hd : t[e]? = some d) (h : a < e) :
    ∃ inside, Cut c d t a e inside := by
  have hbehind := List.take_append_drop (e - (a + 1)) (t.drop (a + 1))
  rw [List.drop_drop, Nat.add_sub_cancel' h, drop_of_getElem? hd] at hbehind
  refine ⟨slice t (a + 1) e, ⟨t.drop (e + 1), ?_⟩, ?_⟩
  · rw [drop_of_getElem? hc, ← hbehind]
    rfl
  · obtain ⟨he, -⟩ := List.getElem?_eq_some_iff.1 hd
    rw [slice, List.length_take, List.length_drop]
    omega

namespace Cut

variable {inside : Text}

theorem getElem? (h : Cut c d t a e inside) : t[a]? = some c ∧ t[e]? = some d := by
  obtain ⟨⟨after, hsplit⟩, rfl⟩ := h
  have hget (k : Nat) : t[a + k]? = (c :: (inside ++ d :: after))[k]? := by
    rw [← hsplit, List.getElem?_drop]
  constructor
  · simpa using hget 0
  · simpa [Nat.add_assoc] using hget (inside.length + 1)

theorem bounds (h : Cut c d t a e inside) : a < e ∧ e < t.length := by
  have hends := h.ends
  obtain ⟨he, -⟩ := List.getElem?_eq_some_iff.1 h.getElem?.2
  exact ⟨by omega, he⟩

/-- A slice from the first of the two characters on, as far as some character inside. -/
theorem slice_front (h : Cut c d t a e inside) (hn : n ≤ inside.length) :
    slice t a (a + n + 1) = c :: inside.take n := by
  obtain ⟨⟨after, hsplit⟩, -⟩ := h
  rw [slice, hsplit, Nat.add_assoc, Nat.add_sub_cancel_left, List.take_succ_cons,
    List.take_append_of_le_length hn]

theorem slice_inside (h : Cut c d t a e inside) : slice t (a + 1) e = inside := by
  obtain ⟨⟨after, hsplit⟩, rfl⟩ := h
  rw [slice, ← List.drop_drop, hsplit, List.drop_succ_cons, List.drop_zero,
    show a + inside.length + 1 - (a + 1) = inside.length by omega, List.take_left]

theorem slice_whole (h : Cut c d t a e inside) : slice t a (e + 1) = c :: (inside ++ [d]) := by
  have hends := h.ends
  obtain ⟨hc, hd⟩ := h.getElem?
  rw [slice_append (Nat.le_succ a) (by omega), slice_append (by omega) (Nat.le_succ e),
    slice_one hc, slice_one hd, h.slice_inside, List.singleton_append]

/-- The cut is found in every slice that holds it. -/
theorem slice (h : Cut c d t a e inside) (hb : b ≤ a) (hn : e < n) :
    Cut c d (slice t b n) (a - b) (e - b) inside := by
  have hends := h.ends
  refine ⟨⟨Text.slice t (e + 1) n, ?_⟩, by omega⟩
  rw [drop_slice hb, slice_append (b := e + 1) (by omega) (by omega), h.slice_whole]
  simp

/-- What follows the cut may be any text. -/
theorem swap (h : Cut c d t a e inside) (v : Text) :
    Cut c d (t.take (e + 1) ++ v) a e inside := by
  obtain ⟨hlt, hlength⟩ := h.bounds
  have hdrop : (t.take (e + 1)).drop a = Text.slice t a (e + 1) := List.drop_take ..
  refine ⟨⟨v, ?_⟩, h.ends⟩
  rw [List.drop_append_of_le_length (by rw [List.length_take]; omega), hdrop, h.slice_whole]
  simp

end Cut
end EndpointManifest.Text
