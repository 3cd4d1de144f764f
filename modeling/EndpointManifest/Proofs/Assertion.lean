import EndpointManifest.Assertion
import EndpointManifest.Proofs.Text.LetterCase
import EndpointManifest.Proofs.Text.Search

/-! The patterns of assertions. Each of their readers leaves a suffix of what it is given; so where a
pattern matches, `expect` stands at the front and the matcher's name in the text behind it. -/

namespace EndpointManifest.Assertion

open Text

theorem skipBlanks_suffix (t : Text) : skipBlanks t <:+ t := List.dropWhile_suffix _

theorem afterMark?_suffix {c : Char} {t rest : Text} (h : afterMark? c t = some rest) :
    rest <:+ t := by
  have hmark := after?_eq_some.1 h
  apply List.IsSuffix.trans _ (skipBlanks_suffix t)
  rw [hmark]
  exact List.suffix_append [c] rest

theorem afterAnyCase?_suffix {lit t rest : Text} (h : afterAnyCase? lit t = some rest) :
    rest <:+ t := by
  obtain ⟨word, _, rfl⟩ := afterAnyCase?_eq_some.1 h
  exact List.suffix_append word rest

theorem afterEmptyParens?_suffix {t rest : Text} (h : afterEmptyParens? t = some rest) :
    rest <:+ t := by
  obtain ⟨u, hopen, hclose⟩ := Option.bind_eq_some_iff.1 h
  exact (afterMark?_suffix hclose).trans (afterMark?_suffix hopen)

theorem opening?_suffix {t rest : Text} (h : opening? t = some rest) : rest <:+ t := by
  obtain ⟨u, hexpect, h⟩ := Option.bind_eq_some_iff.1 h
  obtain ⟨v, hopen, h⟩ := Option.bind_eq_some_iff.1 h
  obtain rfl := Option.some.inj h
  exact (skipBlanks_suffix v).trans ((afterMark?_suffix hopen).trans (afterAnyCase?_suffix hexpect))

theorem opening?_start {c : Char} {t rest : Text} (h : opening? (c :: t) = some rest) :
    sameLetter 'e' c = true := by
  obtain ⟨u, hexpect, _⟩ := Option.bind_eq_some_iff.1 h
  obtain ⟨word, hword, ht⟩ := afterAnyCase?_eq_some.1 hexpect
  cases hword with
  | cons hd _ =>
    obtain ⟨rfl, _⟩ := List.cons.inj ht
    exact hd

theorem statusPattern_start {b : Option Char} {c : Char} {t : Text} {r : Nat × Text}
    (h : statusPattern b (c :: t) = some r) : sameLetter 'e' c = true := by
  obtain ⟨u, hopen, _⟩ := Option.bind_eq_some_iff.1 h
  exact opening?_start hopen

theorem okPattern_start {b : Option Char} {c : Char} {t : Text} {r : Nat × Text}
    (h : okPattern b (c :: t) = some r) : sameLetter 'e' c = true := by
  obtain ⟨u, hopen, _⟩ := Option.bind_eq_some_iff.1 h
  exact opening?_start hopen

theorem run?_suffix {p : Char → Bool} {t run rest : Text} (h : run? p t = some (run, rest)) :
    rest <:+ t := by
  obtain ⟨_, _, _, rfl⟩ := run?_eq_some.1 h
  exact List.suffix_append run rest

theorem await?_suffix {t rest : Text} (h : await? t = some rest) : rest <:+ t := by
  obtain ⟨u, hawait, h⟩ := Option.bind_eq_some_iff.1 h
  obtain ⟨⟨bl, v⟩, hrun, h⟩ := Option.bind_eq_some_iff.1 h
  obtain rfl := Option.some.inj h
  exact (skipBlanks_suffix v).trans ((run?_suffix hrun).trans (afterAnyCase?_suffix hawait))

theorem awaiting?_some {α : Type} {reader : Text → Option α} {t : Text} {a : α}
    (h : awaiting? reader t = some a) : ∃ u, u <:+ t ∧ reader u = some a := by
  rcases orElse_eq_some.1 h with h | ⟨_, h⟩
  · obtain ⟨u, hawait, h⟩ := Option.bind_eq_some_iff.1 h
    exact ⟨u, await?_suffix hawait, h⟩
  · exact ⟨t, List.suffix_refl t, h⟩

theorem closing?_suffix {t rest : Text} (h : closing? t = some rest) : rest <:+ t := by
  obtain ⟨u, hclose, h⟩ := Option.bind_eq_some_iff.1 h
  obtain ⟨v, hpoint, h⟩ := Option.bind_eq_some_iff.1 h
  obtain rfl := Option.some.inj h
  have hparens : (afterEmptyParens? t).getD t <:+ t := by
    cases hempty : afterEmptyParens? t with
    | none => exact List.suffix_refl t
    | some w => exact afterEmptyParens?_suffix hempty
  exact (skipBlanks_suffix v).trans
    ((afterMark?_suffix hpoint).trans ((afterMark?_suffix hclose).trans hparens))

theorem skipObjects_suffix (t : Text) : skipObjects t <:+ t := by
  fun_induction skipObjects t with
  | case1 t h => exact List.suffix_refl t
  | case2 t run rest hrun h => exact List.suffix_refl t
  | case3 t run rest hrun after hpoint rest' hlt ih =>
    have hafter := (afterMark?_suffix hpoint).trans (run?_suffix hrun)
    exact ih.trans ((skipBlanks_suffix after).trans hafter)
  | case4 t run rest hrun after hpoint rest' hlt => exact List.suffix_refl t

def toContain : Text := "tocontain".toList

/-- The matcher of an asserted text stands somewhere in the match. -/
theorem textPattern_some {b : Option Char} {t : Text} {r : Text × Text}
    (h : textPattern b t = some r) :
    ∃ z, z <:+ t ∧ containMatcher? z = some r := by
  obtain ⟨u, hopen, h⟩ := Option.bind_eq_some_iff.1 h
  obtain ⟨v, hv, h⟩ := awaiting?_some h
  obtain ⟨w, hname, h⟩ := Option.bind_eq_some_iff.1 h
  obtain ⟨z, hclose, h⟩ := Option.bind_eq_some_iff.1 h
  refine ⟨z, ?_, h⟩
  have hz := (closing?_suffix hclose).trans ((afterAnyCase?_suffix hname).trans (skipObjects_suffix v))
  exact hz.trans (hv.trans (opening?_suffix hopen))

theorem containMatcher?_front {t : Text} {r : Text × Text} (h : containMatcher? t = some r) :
    ∃ word bl rest, SameLetters toContain word ∧ AllBlank bl ∧ t = word ++ (bl ++ '(' :: rest) := by
  obtain ⟨v, hname, h⟩ := Option.bind_eq_some_iff.1 h
  obtain ⟨u, hopen, _⟩ := Option.bind_eq_some_iff.1 h
  obtain ⟨word, hword, rfl⟩ := afterAnyCase?_eq_some.1 hname
  obtain ⟨bl, hbl, rfl⟩ := (afterMark?_eq_some (by decide)).1 hopen
  exact ⟨word, bl, u, hword, hbl, rfl⟩

theorem textPattern_letter {b : Option Char} {t : Text} {r : Text × Text}
    (h : textPattern b t = some r) :
    ∃ front c bl rest, t = front ++ c :: (bl ++ '(' :: rest) ∧ AllBlank bl ∧
      sameLetter 'n' c = true := by
  obtain ⟨z, ⟨front, rfl⟩, hz⟩ := textPattern_some h
  obtain ⟨word, bl, rest, hword, hbl, rfl⟩ := containMatcher?_front hz
  have hback := List.rel_reverse hword
  obtain ⟨c, w, hlast, hc⟩ : ∃ c w, word.reverse = c :: w ∧ sameLetter 'n' c = true := by
    generalize word.reverse = drow at hback
    cases hback with
    | cons hc _ => exact ⟨_, _, rfl, hc⟩
  refine ⟨front ++ w.reverse, c, bl, rest, ?_, hbl, hc⟩
  rw [← List.reverse_reverse word, hlast]
  simp

end EndpointManifest.Assertion
