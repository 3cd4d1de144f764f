import EndpointManifest.Call.Find
import EndpointManifest.Proofs.Text.LetterCase

/-! What the two patterns of a call match: an object and a name, an opening parenthesis, a plain
literal. The verb as it stands in the text, in capitals, is the name of the method. -/

namespace EndpointManifest.Call

open Text

theorem urlArgument?_eq_some {t url rest : Text} :
    urlArgument? t = some (url, rest) ↔
      ∃ bl bl' q, AllBlank bl ∧ AllBlank bl' ∧ isQuote q = true ∧ url ≠ [] ∧
        (∀ c ∈ url, isQuote c = false) ∧ t = bl ++ '(' :: (bl' ++ (q :: url ++ q :: rest)) := by
  simp only [urlArgument?, Option.bind_eq_bind, Option.bind_eq_some_iff, plainLiteral?_eq_some,
    afterMark?_eq_some (c := '(') (by decide)]
  constructor
  · rintro ⟨t', ⟨bl, hbl, rfl⟩, q, hq, hne, hurl, hlit⟩
    obtain ⟨bl', hbl', hsplit⟩ := skipBlanks_split t'
    exact ⟨bl, bl', q, hbl, hbl', hq, hne, hurl, by rw [← hlit, ← hsplit]⟩
  · rintro ⟨bl, bl', q, hbl, hbl', hq, hne, hurl, rfl⟩
    refine ⟨_, ⟨bl, hbl, rfl⟩, q, hq, hne, hurl, ?_⟩
    rw [skipBlanks_append hbl', List.cons_append, skipBlanks_cons (isBlank_quote hq)]

theorem verb?_some {t rest : Text} {m : Method} (h : verb? t = some (m, rest)) :
    ∃ word, SameLetters m.verb word ∧ t = word ++ rest := by
  obtain ⟨m', _, hm⟩ := List.exists_of_findSome?_eq_some h
  obtain ⟨rest', hrest, heq⟩ := Option.map_eq_some_iff.1 hm
  obtain ⟨rfl, rfl⟩ := Prod.mk.inj heq
  exact afterAnyCase?_eq_some.1 hrest

/-- No verb has a letter with variants beyond ASCII, the long s apart. -/
theorem upper_of_verb {m : Method} {word : Text} (h : SameLetters m.verb word) :
    upper word = m.name := by
  rw [h.upper_eq (by cases m <;> decide)]
  cases m <;> decide

theorem verbCall?_some {t rest : Text} {m : Method} {url : Text}
    (h : verbCall? t = some ((m, url), rest)) :
    ∃ bl bl' word t', AllBlank bl ∧ AllBlank bl' ∧ SameLetters m.verb word ∧
      t = bl ++ '.' :: (bl' ++ (word ++ t')) ∧ urlArgument? t' = some (url, rest) := by
  simp only [verbCall?, Option.bind_eq_bind, Option.bind_eq_some_iff, Prod.exists,
    afterMark?_eq_some (c := '.') (by decide), Option.pure_def, Option.some.injEq, Prod.mk.injEq]
    at h
  obtain ⟨u, ⟨bl, hbl, rfl⟩, m', t', hverb, url', rest', harg, ⟨rfl, rfl⟩, rfl⟩ := h
  obtain ⟨word, hword, hu⟩ := verb?_some hverb
  obtain ⟨bl', hbl', hsplit⟩ := skipBlanks_split u
  exact ⟨bl, bl', word, t', hbl, hbl', hword, by rw [← hu, ← hsplit], harg⟩

theorem identifier?_some {t name rest : Text} (h : identifier? t = some (name, rest)) :
    ∃ c tail, name = c :: tail ∧ isLatinNameStart c = true ∧ (∀ d ∈ tail, isNameChar d = true) ∧
      t = name ++ rest := by
  cases t with
  | nil => simp [identifier?] at h
  | cons c t =>
    simp only [identifier?] at h
    split at h
    · next hc =>
      simp only [Option.some.injEq, Prod.mk.injEq] at h
      obtain ⟨rfl, rfl⟩ := h
      refine ⟨c, _, rfl, hc, fun d hd => List.mem_takeWhile_imp hd, ?_⟩
      rw [List.cons_append, List.takeWhile_append_dropWhile]
    · cases h

def IsClient (clients : List Text) (object : Text) : Prop :=
  (∃ client ∈ clients, SameLetters client object) ∨
    (clients = [] ∨ clients = [[]]) ∧ ∃ c tail, object = c :: tail ∧ isLatinNameStart c = true ∧
      ∀ d ∈ tail, isNameChar d = true

theorem methodPattern_some {clients : List Text} {before : Option Char} {t rest : Text}
    {m : Method} {url : Text} (h : methodPattern clients before t = some ((m, url), rest)) :
    before.any isNameChar = false ∧ ∃ object t', IsClient clients object ∧ t = object ++ t' ∧
      verbCall? t' = some ((m, url), rest) := by
  obtain ⟨hbefore, h⟩ := guard_bind_eq_some.1 h
  refine ⟨by simpa using hbefore, ?_⟩
  split at h
  · next hnone =>
    obtain ⟨⟨object, t'⟩, hid, hcall⟩ := Option.bind_eq_some_iff.1 h
    obtain ⟨c, tail, rfl, hc, htail, ht⟩ := identifier?_some hid
    exact ⟨_, t', .inr ⟨hnone, c, tail, rfl, hc, htail⟩, ht, hcall⟩
  · obtain ⟨client, hmem, hclient⟩ := List.exists_of_findSome?_eq_some h
    obtain ⟨t', hafter, hcall⟩ := Option.bind_eq_some_iff.1 hclient
    obtain ⟨object, hobject, ht⟩ := afterAnyCase?_eq_some.1 hafter
    exact ⟨object, t', .inl ⟨client, hmem, hobject⟩, ht, hcall⟩

theorem fetchCall?_some {t url rest : Text} (h : fetchCall? t = some (url, rest)) :
    ∃ word t', SameLetters "fetch".toList word ∧ t = word ++ t' ∧
      urlArgument? t' = some (url, rest) := by
  obtain ⟨t', hafter, harg⟩ := Option.bind_eq_some_iff.1 h
  obtain ⟨word, hword, ht⟩ := afterAnyCase?_eq_some.1 hafter
  exact ⟨word, t', hword, ht, harg⟩

theorem fetchPattern_some {before : Option Char} {t url rest : Text}
    (h : fetchPattern before t = some (url, rest)) :
    wordEdge before t = true ∧ ∃ object t', t = object ++ t' ∧
      (object = [] ∨ ∃ c tail bl bl', isLatinNameStart c = true ∧
        (∀ d ∈ tail, isNameChar d = true) ∧ AllBlank bl ∧ AllBlank bl' ∧
        object = c :: tail ++ (bl ++ '.' :: bl')) ∧
      fetchCall? t' = some (url, rest) := by
  obtain ⟨hedge, h⟩ := guard_bind_eq_some.1 h
  refine ⟨hedge, ?_⟩
  rcases orElse_eq_some.1 h with h | ⟨_, h⟩
  · obtain ⟨⟨name, u⟩, hid, h⟩ := Option.bind_eq_some_iff.1 h
    obtain ⟨u', hpoint, hcall⟩ := Option.bind_eq_some_iff.1 h
    obtain ⟨c, tail, rfl, hc, htail, rfl⟩ := identifier?_some hid
    obtain ⟨bl, hbl, hu⟩ := (afterMark?_eq_some (by decide)).1 hpoint
    obtain ⟨bl', hbl', hu'⟩ := skipBlanks_split u'
    refine ⟨_, _, ?_, .inr ⟨c, tail, bl, bl', hc, htail, hbl, hbl', rfl⟩, hcall⟩
    rw [hu]
    conv_lhs => rw [hu']
    simp
  · exact ⟨[], t, rfl, .inl rfl, h⟩

end EndpointManifest.Call
