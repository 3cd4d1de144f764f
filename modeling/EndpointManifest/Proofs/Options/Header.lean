import EndpointManifest.Options.Header
import EndpointManifest.Proofs.Text.LetterCase
import Mathlib.Data.Option.Basic

/-! What the two patterns of a headers block match: a content type in quotes under its quoted name,
and the word `Bearer` at the front of an authorisation. -/

namespace EndpointManifest.Options

open Text

def contentTypeName : Text := "content-type".toList
def authorizationName : Text := "authorization".toList
def bearerWord : Text := "bearer".toList

theorem skipBlanks_value {bl t : Text} {q : Char} (h : AllBlank bl) (hq : isQuote q = true) :
    skipBlanks (bl ++ q :: t) = q :: t :=
  skipBlanks_eq_cons_iff.2 ⟨isBlank_quote hq, bl, h, rfl⟩

theorem contentTypePattern_eq_some {before : Option Char} {t value rest : Text} :
    contentTypePattern before t = some (value, rest) ↔
      before.any isKeyChar = false ∧ ∃ q word bl bl' q' q'', (q = '\'' ∨ q = '"') ∧
        SameLetters contentTypeName word ∧ AllBlank bl ∧ AllBlank bl' ∧ isQuote q' = true ∧
        isQuote q'' = true ∧ value ≠ [] ∧ (∀ c ∈ value, isQuote c = false) ∧
        t = q :: (word ++ q :: (bl ++ ':' :: (bl' ++ q' :: (value ++ q'' :: rest)))) := by
  simp only [contentTypePattern, Option.bind_eq_bind, Option.bind_eq_some_iff,
    Option.guard_eq_some', exists_const, Option.pure_def, Option.some.injEq, Prod.exists,
    Prod.mk.injEq, quote?_eq_some, after?_eq_some,
    afterAnyCase?_eq_some, afterMark?_eq_some (c := ':') (by decide), run?_eq_some,
    List.singleton_append]
  constructor
  · rintro ⟨hbefore, q, _, ⟨hq, rfl⟩, hback, _, ⟨word, hword, rfl⟩, _, rfl, x, ⟨bl, hbl, rfl⟩, q', _,
      ⟨hq', hx⟩, _, _, ⟨hne, hall, _, rfl⟩, q'', _, ⟨hq'', rfl⟩, rfl, rfl⟩
    obtain ⟨bl', hbl', hsplit⟩ := skipBlanks_split x
    rw [hx] at hsplit
    refine ⟨by simpa using hbefore, q, word, bl, bl', q', q'', ?_, hword, hbl, hbl', hq', hq'', hne,
      by simpa using hall, by rw [hsplit]⟩
    have hcases : (q = '\'' ∨ q = '"') ∨ q = '`' := by simpa [isQuote] using hq
    rcases hcases with hcases | rfl
    · exact hcases
    · exact absurd hback (by decide)
  · rintro ⟨hbefore, q, word, bl, bl', q', q'', hq, hword, hbl, hbl', hq', hq'', hne, hall, rfl⟩
    have hclass : isQuote q = true ∧ (q != '`') = true := by rcases hq with rfl | rfl <;> decide
    refine ⟨by simpa using hbefore, q, _, ⟨hclass.1, rfl⟩, hclass.2, _, ⟨word, hword, rfl⟩, _, rfl, _,
      ⟨bl, hbl, rfl⟩, q', value ++ q'' :: rest, ⟨hq', skipBlanks_value hbl' hq'⟩, value, q'' :: rest,
      ⟨hne, by simpa using hall, ?_, rfl⟩, q'', rest, ⟨hq'', rfl⟩, rfl, rfl⟩
    rintro c ⟨rfl⟩
    simp [hq'']

theorem contentTypePattern_start {before : Option Char} {c : Char} {t : Text} {r : Text × Text}
    (h : contentTypePattern before (c :: t) = some r) : isQuote c = true := by
  obtain ⟨value, rest⟩ := r
  obtain ⟨_, q, _, _, _, _, _, hq, _, _, _, _, _, _, _, ht⟩ := contentTypePattern_eq_some.1 h
  obtain ⟨rfl, _⟩ := List.cons.inj ht
  rcases hq with rfl | rfl <;> decide

theorem bearerPattern_isSome {before : Option Char} {t : Text} :
    (bearerPattern before t).isSome = true ↔
      before.any isKeyChar = false ∧ ∃ q word bl bl' q' bl'' word' rest,
      (q = [] ∨ q = ['\''] ∨ q = ['"']) ∧ SameLetters authorizationName word ∧ AllBlank bl ∧
      AllBlank bl' ∧ isQuote q' = true ∧ AllBlank bl'' ∧ SameLetters bearerWord word' ∧
      rest.head?.any isWord = false ∧
      t = q ++ (word ++ (q ++ (bl ++ ':' :: (bl' ++ q' :: (bl'' ++ (word' ++ rest)))))) := by
  rw [Option.isSome_iff_exists]
  constructor
  · rintro ⟨r, h⟩
    obtain ⟨hbefore, h⟩ := guard_bind_eq_some.1 h
    split at h
    next q rest hopen =>
    have ht : (q = [] ∨ q = ['\''] ∨ q = ['"']) ∧ t = q ++ rest := by
      split at hopen <;> obtain ⟨rfl, rfl⟩ := Prod.mk.inj hopen
      · exact ⟨.inr (.inl rfl), rfl⟩
      · exact ⟨.inr (.inr rfl), rfl⟩
      · exact ⟨.inl rfl, rfl⟩
    simp only [Option.bind_eq_bind, Option.bind_eq_some_iff, Option.guard_eq_some', exists_const,
      Prod.exists, quote?_eq_some, after?_eq_some, afterAnyCase?_eq_some,
      afterMark?_eq_some (c := ':') (by decide)] at h
    obtain ⟨_, ⟨word, hword, rfl⟩, _, rfl, x, ⟨bl, hbl, rfl⟩, q', y, ⟨hq', hx⟩, z,
      ⟨word', hword', hy⟩, hedge, _⟩ := h
    obtain ⟨bl', hbl', hsplit⟩ := skipBlanks_split x
    obtain ⟨bl'', hbl'', hsplit'⟩ := skipBlanks_split y
    refine ⟨by simpa using hbefore, q, word, bl, bl', q', bl'', word', z, ht.1, hword, hbl, hbl', hq',
      hbl'', hword', by simpa using hedge, ?_⟩
    rw [ht.2, hsplit, hx, hsplit', hy]
  · rintro ⟨hbefore, q, word, bl, bl', q', bl'', word', rest, hq, hword, hbl, hbl', hq', hbl'',
      hword', hedge, rfl⟩
    refine ⟨((), rest), guard_bind_eq_some.2 ⟨by simp [hbefore], ?_⟩⟩
    split
    next q₀ rest₀ hopen =>
    obtain ⟨rfl, rfl⟩ : q₀ = q ∧ rest₀ =
        word ++ (q ++ (bl ++ ':' :: (bl' ++ q' :: (bl'' ++ (word' ++ rest))))) := by
      rcases hq with rfl | rfl | rfl
      · -- the name starts with a letter, which is no quote
        cases hword with
        | cons hletter _ =>
          split at hopen
          · next hsplit =>
            obtain ⟨rfl, _⟩ := List.cons.inj hsplit
            exact absurd hletter (by decide)
          · next hsplit =>
            obtain ⟨rfl, _⟩ := List.cons.inj hsplit
            exact absurd hletter (by decide)
          · obtain ⟨rfl, rfl⟩ := Prod.mk.inj hopen
            exact ⟨rfl, rfl⟩
      · obtain ⟨rfl, rfl⟩ := Prod.mk.inj hopen
        exact ⟨rfl, rfl⟩
      · obtain ⟨rfl, rfl⟩ := Prod.mk.inj hopen
        exact ⟨rfl, rfl⟩
    have hstop : skipBlanks (word' ++ rest) = word' ++ rest := by
      cases hword' with
      | @cons _ b _ w hletter _ =>
        have hb : isBlank b = false := isBlank_latin (isLatinLetter_of_sameLetter (by decide) hletter)
        rw [List.cons_append, skipBlanks_cons hb]
    simp only [Option.bind_eq_bind, Option.bind_eq_some_iff, Option.guard_eq_some', exists_const,
      Prod.exists, quote?_eq_some, after?_eq_some, afterAnyCase?_eq_some,
      afterMark?_eq_some (c := ':') (by decide)]
    exact ⟨_, ⟨word, hword, rfl⟩, _, rfl, _, ⟨bl, hbl, rfl⟩, q', bl'' ++ (word' ++ rest),
      ⟨hq', skipBlanks_value hbl' hq'⟩, rest, ⟨word', hword', by rw [skipBlanks_append hbl'', hstop]⟩,
      by simpa using hedge, rfl⟩

end EndpointManifest.Options
