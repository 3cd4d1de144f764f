import EndpointManifest.Proofs.Delimiter
import EndpointManifest.Proofs.Text.Slice
import Mathlib.Algebra.Group.Nat.Even
import Mathlib.Order.Nat

/-! Which quote closes a literal: the first of its kind before which an even number of backslashes
stands. The scan takes each backslash together with the character after it, so that at every place
it comes to the backslashes passed so far are even in number. -/

namespace EndpointManifest.Delimiter

open Text

variable {q c : Char}

def slashes (u : Text) : Nat := (u.reverse.takeWhile (· = '\\')).length

theorem slashes_slash (u : Text) : slashes (u ++ ['\\']) = slashes u + 1 := by
  simp [slashes]

theorem even_slashes_concat (hc : c ≠ '\\') (u : Text) : Even (slashes (u ++ [c])) := by
  simp [slashes, hc]

theorem even_slashes_escaped {u : Text} (h : Even (slashes u)) (d : Char) :
    Even (slashes (u ++ ['\\', d])) := by
  have hsplit : u ++ ['\\', d] = u ++ ['\\'] ++ [d] := by simp
  rw [hsplit]
  by_cases hd : d = '\\'
  · rw [hd, slashes_slash, slashes_slash, Nat.even_add_one, Nat.even_add_one, not_not]
    exact h
  · exact even_slashes_concat hd _

/-- Every quote of the kind in the text is escaped, where `front` stands before the text. -/
def Escaped (q : Char) (front u : Text) : Prop :=
  ∀ x y, u = x ++ q :: y → ¬ Even (slashes (front ++ x))

theorem escaped_of_not_mem {front u : Text} (h : q ∉ u) : Escaped q front u := by
  rintro x y rfl
  simp at h

theorem Escaped.cons {front u : Text} {d : Char} (h : Escaped q (front ++ [d]) u)
    (hd : d = q → ¬ Even (slashes front)) : Escaped q front (d :: u) := by
  intro x y hsplit
  cases x with
  | nil =>
    obtain ⟨rfl, rfl⟩ := List.cons.inj hsplit
    simpa using hd rfl
  | cons e x =>
    obtain ⟨rfl, rfl⟩ := List.cons.inj hsplit
    simpa using h x y rfl

theorem Escaped.tail {front u : Text} {d : Char} (h : Escaped q front (d :: u)) :
    (d = q → ¬ Even (slashes front)) ∧ Escaped q (front ++ [d]) u := by
  constructor
  · rintro rfl
    simpa using h [] u rfl
  · rintro x y rfl
    simpa using h (d :: x) y rfl

theorem escaped_of_quoteFrom (hq : q ≠ '\\') (front : Text) (hfront : Even (slashes front))
    {t : Text} {n : Nat} (h : quoteFrom q t = some n) :
    ∃ u v, t = u ++ q :: v ∧ n = u.length ∧ Even (slashes (front ++ u)) ∧ Escaped q front u := by
  fun_induction quoteFrom q t generalizing n front with
  | case1 => cases h
  | case2 => cases h
  | case3 d rest ih =>
    obtain ⟨k, hk, rfl⟩ := Option.map_eq_some_iff.1 h
    obtain ⟨u, v, rfl, rfl, heven, hescaped⟩ := ih _ (even_slashes_escaped hfront d) hk
    refine ⟨'\\' :: d :: u, v, rfl, rfl, by simpa using heven, ?_⟩
    have hslash : ¬ Even (slashes (front ++ ['\\'])) := by
      rw [slashes_slash, Nat.even_add_one, not_not]
      exact hfront
    refine Escaped.cons (Escaped.cons (by simpa using hescaped) fun _ => hslash) ?_
    rintro rfl
    exact absurd rfl hq
  | case4 rest hend hslash =>
    obtain rfl := Option.some.inj h
    exact ⟨[], rest, rfl, rfl, by simpa using hfront, escaped_of_not_mem (by simp)⟩
  | case5 d rest hend hslash hdq ih =>
    have hd : d ≠ '\\' := not_slash hend hslash
    obtain ⟨k, hk, rfl⟩ := Option.map_eq_some_iff.1 h
    obtain ⟨u, v, rfl, rfl, heven, hescaped⟩ := ih _ (even_slashes_concat hd front) hk
    refine ⟨d :: u, v, rfl, rfl, by simpa using heven, hescaped.cons fun heq => absurd heq hdq⟩

theorem quoteFrom_of_escaped (hq : q ≠ '\\') (front : Text) (hfront : Even (slashes front))
    {u : Text} (heven : Even (slashes (front ++ u))) (h : Escaped q front u) (v : Text) :
    quoteFrom q (u ++ q :: v) = some u.length := by
  cases u with
  | nil => rw [List.nil_append, quoteFrom_cons hq, if_pos rfl, List.length_nil]
  | cons d u =>
    by_cases hd : d = '\\'
    · subst hd
      cases u with
      | nil =>
        rw [slashes_slash, Nat.even_add_one] at heven
        exact absurd hfront heven
      | cons d u =>
        have ih := quoteFrom_of_escaped hq _ (even_slashes_escaped hfront d) (by simpa using heven)
          (by simpa using h.tail.2.tail.2) v
        rw [List.cons_append, List.cons_append, quoteFrom, ih, Option.map_some]
        rfl
    · have hdq : d ≠ q := fun heq => h.tail.1 heq hfront
      have ih := quoteFrom_of_escaped hq _ (even_slashes_concat hd front) (by simpa using heven)
        h.tail.2 v
      rw [List.cons_append, quoteFrom_cons hd, if_neg hdq, ih, Option.map_some]
      rfl
termination_by u.length

theorem ne_slash_of_isQuote (h : isQuote q = true) : q ≠ '\\' := by
  rintro rfl
  exact absurd h (by decide)

/-- A literal ends at the first quote of its own kind that is not escaped. -/
theorem literalEnd?_eq_some {t : Text} {n : Nat} :
    literalEnd? t = some n ↔ ∃ q u v, isQuote q = true ∧ t = q :: (u ++ q :: v) ∧
      n = u.length + 1 ∧ Even (slashes u) ∧ Escaped q [] u := by
  constructor
  · intro h
    cases t with
    | nil => cases h
    | cons q t =>
      simp only [literalEnd?] at h
      split_ifs at h with hq
      obtain ⟨k, hk, rfl⟩ := Option.map_eq_some_iff.1 h
      obtain ⟨u, v, rfl, rfl, heven, hescaped⟩ :=
        escaped_of_quoteFrom (ne_slash_of_isQuote hq) [] Even.zero hk
      exact ⟨q, u, v, hq, rfl, rfl, heven, hescaped⟩
  · rintro ⟨q, u, v, hq, rfl, rfl, heven, hescaped⟩
    rw [literalEnd?, if_pos hq,
      quoteFrom_of_escaped (ne_slash_of_isQuote hq) [] Even.zero heven hescaped,
      Option.map_some]

theorem closingQuote?_append {u v : Text} {n : Nat} :
    closingQuote? (u ++ v) u.length = some (u.length + n) ↔ literalEnd? v = some n := by
  rw [closingQuote?_of_drop List.drop_left, Option.map_eq_some_iff]
  simp

theorem literalEnd?_of_not_mem {u v : Text} (hq : isQuote q = true) (h : q ∉ u) :
    literalEnd? (q :: (u ++ q :: v)) = some (u.length + 1) ↔ Even (slashes u) := by
  rw [literalEnd?_eq_some]
  constructor
  · rintro ⟨q', u', v', -, hsplit, hlength, heven, -⟩
    obtain ⟨rfl, hsplit⟩ := List.cons.inj hsplit
    rwa [(List.append_inj hsplit (Nat.succ.inj hlength)).1]
  · exact fun heven => ⟨q, u, v, hq, rfl, rfl, heven, escaped_of_not_mem h⟩

/-- Behind an even number of backslashes, of which those up to `start` do not count, a quote of the
kind that opens the literal at `start` stands at `r`. -/
def EndsLiteral (t : Text) (start : Int) (r : Nat) : Prop :=
  ∃ (s : Nat) (q : Char), start = s ∧ t[s]? = some q ∧ isQuote q = true ∧ s < r ∧
    t[r]? = some q ∧ Even (slashes (t.slice (s + 1) r))

section

variable {t inside : Text} {s r : Nat}

theorem endsLiteral_iff : EndsLiteral t s r ↔
    ∃ q inside, isQuote q = true ∧ Cut q q t s r inside ∧ Even (slashes inside) := by
  constructor
  · rintro ⟨s', q, hs, hopens, hq, hlt, hcloses, heven⟩
    obtain rfl := Int.ofNat.inj hs
    obtain ⟨inside, hcut⟩ := exists_cut hopens hcloses hlt
    exact ⟨q, inside, hq, hcut, by rwa [hcut.slice_inside] at heven⟩
  · rintro ⟨q, inside, hq, hcut, heven⟩
    exact ⟨s, q, rfl, hcut.getElem?.1, hq, hcut.bounds.1, hcut.getElem?.2,
      by rwa [hcut.slice_inside]⟩

theorem closingQuote?_eq_some : closingQuote? t s = some r ↔ ∃ q inside, isQuote q = true ∧
    Cut q q t s r inside ∧ Even (slashes inside) ∧ Escaped q [] inside := by
  rw [closingQuote?_of_drop rfl, Option.map_eq_some_iff]
  constructor
  · rintro ⟨n, hn, rfl⟩
    obtain ⟨q, inside, v, hq, hsplit, rfl, heven, hescaped⟩ := literalEnd?_eq_some.1 hn
    exact ⟨q, inside, hq, ⟨⟨v, hsplit⟩, rfl⟩, heven, hescaped⟩
  · rintro ⟨q, inside, hq, ⟨⟨v, hsplit⟩, rfl⟩, heven, hescaped⟩
    exact ⟨_, literalEnd?_eq_some.2 ⟨q, inside, v, hq, hsplit, rfl, heven, hescaped⟩, rfl⟩

/-- The quotes inside are escaped if and only if no earlier one ends the literal. -/
theorem escaped_iff (hq : isQuote q = true) (h : Cut q q t s r inside) :
    Escaped q [] inside ↔ ∀ r', EndsLiteral t s r' → r ≤ r' := by
  have hends := h.ends
  constructor
  · intro hescaped r' hr'
    obtain ⟨q', inside', hq', hcut', heven⟩ := endsLiteral_iff.1 hr'
    have hends' := hcut'.ends
    obtain rfl := Option.some.inj (h.getElem?.1.symm.trans hcut'.getElem?.1)
    by_contra hlt
    -- the text inside up to the earlier quote is what that one would close
    refine hescaped inside' (t.slice (r' + 1) r) ?_ heven
    rw [← h.slice_inside, ← hcut'.slice_inside, slice_append (b := r') (by omega) (by omega),
      slice_append (a := r') (Nat.le_succ r') (by omega), slice_one hcut'.getElem?.2]
    rfl
  · rintro hleast x y rfl heven
    obtain ⟨⟨v, hsplit⟩, -⟩ := h
    have hcut : Cut q q t s (s + x.length + 1) x := ⟨⟨y ++ q :: v, by simp [hsplit]⟩, rfl⟩
    have := hleast _ (endsLiteral_iff.2 ⟨q, x, hq, hcut, heven⟩)
    simp only [List.length_append, List.length_cons] at hends
    omega

theorem closingQuote?_iff_isLeast {start : Int} :
    closingQuote? t start = some r ↔ IsLeast {r | EndsLiteral t start r} r := by
  rcases Int.lt_or_le start 0 with hneg | hpos
  · rw [closingQuote?, if_pos hneg]
    constructor
    · intro h
      cases h
    · rintro ⟨⟨s, _, rfl, _⟩, _⟩
      omega
  · obtain ⟨s, rfl⟩ := Int.eq_ofNat_of_zero_le hpos
    rw [closingQuote?_eq_some]
    constructor
    · rintro ⟨q, inside, hq, hcut, heven, hescaped⟩
      exact ⟨endsLiteral_iff.2 ⟨q, inside, hq, hcut, heven⟩, (escaped_iff hq hcut).1 hescaped⟩
    · rintro ⟨hends, hleast⟩
      obtain ⟨q, inside, hq, hcut, heven⟩ := endsLiteral_iff.1 hends
      exact ⟨q, inside, hq, hcut, heven, (escaped_iff hq hcut).2 hleast⟩

/-- A literal is the same whatever follows the quote that closes it. -/
theorem closingQuote?_swap (h : closingQuote? t s = some r) (v : Text) :
    closingQuote? (t.take (r + 1) ++ v) s = some r ∧
      slice (t.take (r + 1) ++ v) s (r + 1) = slice t s (r + 1) := by
  obtain ⟨q, inside, hq, hcut, heven, hescaped⟩ := closingQuote?_eq_some.1 h
  refine ⟨closingQuote?_eq_some.2 ⟨q, inside, hq, hcut.swap v, heven, hescaped⟩, ?_⟩
  rw [(hcut.swap v).slice_whole, hcut.slice_whole]

end

/-- A literal is closed by the first quote of its kind behind an even number of backslashes, and by
none if there is none; and what follows that quote does not matter. -/
theorem closingQuote?_least (t : Text) (start : Int) :
    (∀ r, closingQuote? t start = some r ↔ IsLeast {r | EndsLiteral t start r} r) ∧
    (closingQuote? t start = none ↔ ∀ r, ¬ EndsLiteral t start r) ∧
    ∀ r, closingQuote? t start = some r → ∀ v,
      closingQuote? (t.take (r + 1) ++ v) start = some r ∧
        slice (t.take (r + 1) ++ v) start.toNat (r + 1) = slice t start.toNat (r + 1) := by
  refine ⟨fun r => closingQuote?_iff_isLeast, ?_, fun r h v => ?_⟩
  · rw [Option.eq_none_iff_forall_ne_some]
    constructor
    · intro hnone r hr
      classical
      exact hnone _ (closingQuote?_iff_isLeast.2 (Nat.isLeast_find ⟨r, hr⟩))
    · exact fun hnone r hr => hnone r (closingQuote?_iff_isLeast.1 hr).1
  · obtain ⟨⟨s, _, rfl, _⟩, _⟩ := closingQuote?_iff_isLeast.1 h
    exact closingQuote?_swap h v

/-- An escaped quote closes nothing, one behind an escaped backslash does; and a text may end in a
backslash. -/
theorem closingQuote?_least_escapes :
    let t := "f('it\\'s \\\\', b)".toList
    closingQuote? t 2 = some 11 ∧ EndsLiteral t 2 11 ∧ ¬ EndsLiteral t 2 6 ∧
      closingQuote? (t.take 12 ++ "'\\".toList) 2 = some 11 ∧
      ∀ r, ¬ EndsLiteral "'a\\'\\".toList 0 r := by
  intro t
  have hclosed : closingQuote? t 2 = some 11 := by decide
  obtain ⟨hiff, -, hswap⟩ := closingQuote?_least t 2
  obtain ⟨hends, hleast⟩ := (hiff 11).1 hclosed
  refine ⟨hclosed, hends, fun hescaped => ?_, (hswap 11 hclosed _).1, ?_⟩
  · exact absurd (hleast hescaped) (by decide)
  · exact (closingQuote?_least _ 0).2.1.1 (by decide)

end EndpointManifest.Delimiter
