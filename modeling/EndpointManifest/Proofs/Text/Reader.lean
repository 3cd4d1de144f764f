import EndpointManifest.Text.Reader
import Mathlib.Data.List.Forall2
import Mathlib.Data.List.TakeDrop
import Mathlib.Data.List.TakeWhile
import Mathlib.Data.Option.Basic

/-! What each reader recognises, said without the reader: the text is a word of a certain form
followed by the rest. From these equations follows what a pattern built of readers matches. -/

namespace EndpointManifest.Text

-- A statement about the characters of a text is decided by going through the text, not by going
-- through all characters.
instance (priority := high) {p : Char → Prop} [DecidablePred p] (t : Text) :
    Decidable (∀ c ∈ t, p c) :=
  List.decidableBAll p t

def AllBlank (t : Text) : Prop := ∀ c ∈ t, isBlank c = true

instance (t : Text) : Decidable (AllBlank t) :=
  inferInstanceAs (Decidable (∀ c ∈ t, isBlank c = true))

def SameLetters (s t : Text) : Prop := List.Forall₂ (fun a b => sameLetter a b = true) s t

theorem guard_bind_eq_some {α : Type} {p : Prop} [Decidable p] {f : Unit → Option α} {a : α} :
    (guard p >>= f) = some a ↔ p ∧ f () = some a := by
  by_cases h : p <;> simp [guard, h]

theorem orElse_eq_some {α : Type} {x y : Option α} {a : α} :
    (x <|> y) = some a ↔ x = some a ∨ x = none ∧ y = some a := by
  simp

/-- Of two that agree where both succeed, either counts. -/
theorem orElse_eq_some_of_agree {α : Type} {x y : Option α} {a : α}
    (h : ∀ a b, x = some a → y = some b → a = b) :
    (x <|> y) = some a ↔ x = some a ∨ y = some a := by
  rw [orElse_eq_some]
  refine ⟨Or.imp_right And.right, ?_⟩
  rintro (hx | hy)
  · exact .inl hx
  · cases hx : x with
    | none => exact .inr ⟨rfl, hy⟩
    | some b => exact .inl (congrArg some (h b a hx hy))

/-- Of several readings that agree, any counts. -/
theorem findSome?_eq_some_of_agree {α β : Type} {f : α → Option β} {l : List α} {b : β}
    (h : ∀ x ∈ l, ∀ y ∈ l, ∀ a b, f x = some a → f y = some b → a = b) :
    l.findSome? f = some b ↔ ∃ x ∈ l, f x = some b := by
  refine ⟨List.exists_of_findSome?_eq_some, ?_⟩
  rintro ⟨x, hx, hb⟩
  cases hfind : l.findSome? f with
  | none => rw [List.findSome?_eq_none_iff.1 hfind x hx] at hb; cases hb
  | some a =>
    obtain ⟨y, hy, ha⟩ := List.exists_of_findSome?_eq_some hfind
    rw [h y hy x hx a b ha hb]

theorem allBlank_nil : AllBlank [] := by simp [AllBlank]

theorem allBlank_space : AllBlank [' '] := by simp [AllBlank, isBlank]

theorem allBlank_append {s t : Text} : AllBlank (s ++ t) ↔ AllBlank s ∧ AllBlank t := by
  simp [AllBlank, or_imp, forall_and]

theorem not_mem_blanks {bl : Text} (h : AllBlank bl) {c : Char} (hc : isBlank c = false) :
    c ∉ bl := by
  intro hmem
  rw [h c hmem] at hc
  cases hc

theorem skipBlanks_append {bl : Text} (h : AllBlank bl) (t : Text) :
    skipBlanks (bl ++ t) = skipBlanks t :=
  List.dropWhile_append_of_pos h

theorem skipBlanks_cons {c : Char} (h : isBlank c = false) (t : Text) :
    skipBlanks (c :: t) = c :: t := by
  simp [skipBlanks, h]

theorem skipBlanks_split (t : Text) : ∃ bl, AllBlank bl ∧ t = bl ++ skipBlanks t :=
  ⟨t.takeWhile isBlank, fun _ h => List.mem_takeWhile_imp h,
    (List.takeWhile_append_dropWhile ..).symm⟩

theorem head_skipBlanks {c : Char} {t rest : Text} (h : skipBlanks t = c :: rest) :
    isBlank c = false := by
  have := List.head?_dropWhile_not isBlank t
  rw [show t.dropWhile isBlank = c :: rest from h] at this
  simpa using this

/-- A text whose first character is not blank stands after blanks in one way only. -/
theorem skipBlanks_eq_cons_iff {c : Char} {t rest : Text} :
    skipBlanks t = c :: rest ↔ isBlank c = false ∧ ∃ bl, AllBlank bl ∧ t = bl ++ c :: rest := by
  constructor
  · intro h
    obtain ⟨bl, hbl, ht⟩ := skipBlanks_split t
    exact ⟨head_skipBlanks h, bl, hbl, by rw [← h]; exact ht⟩
  · rintro ⟨hc, bl, hbl, rfl⟩
    rw [skipBlanks_append hbl, skipBlanks_cons hc]

theorem after?_eq_some {lit t rest : Text} : after? lit t = some rest ↔ t = lit ++ rest := by
  induction lit generalizing t with
  | nil => simp [after?]
  | cons a lit ih =>
    cases t with
    | nil => simp [after?]
    | cons b t =>
      by_cases hab : a = b
      · simp [after?, hab, ih]
      · simp [after?, hab, Ne.symm hab]

theorem afterAnyCase?_eq_some {lit t rest : Text} :
    afterAnyCase? lit t = some rest ↔ ∃ word, SameLetters lit word ∧ t = word ++ rest := by
  induction lit generalizing t with
  | nil =>
    simp only [afterAnyCase?, SameLetters, List.forall₂_nil_left_iff, Option.some.injEq]
    simp
  | cons a lit ih =>
    cases t with
    | nil =>
      simp only [afterAnyCase?, reduceCtorEq, SameLetters, false_iff, not_exists, not_and]
      rintro word hw
      cases hw with
      | cons _ _ => simp
    | cons b t =>
      simp only [afterAnyCase?]
      split
      · next hab =>
        rw [ih]
        constructor
        · rintro ⟨word, hw, rfl⟩
          exact ⟨b :: word, .cons hab hw, rfl⟩
        · rintro ⟨word, hw, ht⟩
          cases hw with
          | cons _ hw =>
            simp only [List.cons_append, List.cons.injEq] at ht
            exact ⟨_, hw, ht.2⟩
      · next hab =>
        simp only [reduceCtorEq, false_iff, not_exists, not_and]
        rintro word hw ht
        cases hw with
        | cons hd _ =>
          simp only [List.cons_append, List.cons.injEq] at ht
          exact hab (ht.1 ▸ hd)

theorem afterAnyCase?_append (s s' t : Text) :
    afterAnyCase? (s ++ s') t = (afterAnyCase? s t).bind (afterAnyCase? s') := by
  induction s generalizing t with
  | nil => rfl
  | cons a s ih =>
    cases t with
    | nil => rfl
    | cons b t =>
      simp only [List.cons_append, afterAnyCase?]
      split
      · exact ih t
      · rfl

theorem exists_of_afterOneOf? {lits : List Text} {t rest : Text}
    (h : afterOneOf? lits t = some rest) : ∃ lit ∈ lits, t = lit ++ rest := by
  obtain ⟨lit, hm, hl⟩ := List.exists_of_findSome?_eq_some h
  exact ⟨lit, hm, after?_eq_some.1 hl⟩

theorem afterMark?_eq_some {c : Char} {t rest : Text} (hc : isBlank c = false) :
    afterMark? c t = some rest ↔ ∃ bl, AllBlank bl ∧ t = bl ++ c :: rest := by
  rw [afterMark?, after?_eq_some, List.singleton_append, skipBlanks_eq_cons_iff]
  simp [hc]

theorem afterMark?_eq_none {c d : Char} {bl : Text} (hbl : AllBlank bl) (hd : isBlank d = false)
    (hcd : c ≠ d) (t : Text) : afterMark? c (bl ++ d :: t) = none := by
  rw [afterMark?, skipBlanks_append hbl, skipBlanks_cons hd, after?, if_neg hcd]

theorem endsWith_single (c d : Char) (t : Text) : endsWith [c] (t ++ [d]) = (c == d) := by
  simp [endsWith, List.isPrefixOf]

theorem span_eq_iff {p : Char → Bool} {t u v : Text} :
    t.span p = (u, v) ↔
      t = u ++ v ∧ (∀ c ∈ u, p c = true) ∧ ∀ c, v.head? = some c → p c = false := by
  rw [List.span_eq_takeWhile_dropWhile, Prod.mk.injEq]
  constructor
  · rintro ⟨rfl, rfl⟩
    refine ⟨List.takeWhile_append_dropWhile.symm, fun _ h => List.mem_takeWhile_imp h,
      fun c hc => ?_⟩
    have := List.head?_dropWhile_not p t
    rw [hc] at this
    simpa using this
  · rintro ⟨rfl, hu, hv⟩
    rw [List.takeWhile_append_of_pos hu, List.dropWhile_append_of_pos hu]
    cases v with
    | nil => simp
    | cons c v => simp [hv c rfl]

theorem run?_eq_some {p : Char → Bool} {t run rest : Text} :
    run? p t = some (run, rest) ↔
      run ≠ [] ∧ (∀ c ∈ run, p c = true) ∧ (∀ c, rest.head? = some c → p c = false) ∧
        t = run ++ rest := by
  have hrun : run? p t = some (run, rest) ↔ run ≠ [] ∧ t.span p = (run, rest) := by
    unfold run?
    cases t.span p with
    | mk u v =>
      cases u with
      | nil => simp +contextual [eq_comm]
      | cons a u => simp +contextual [eq_comm]
  rw [hrun, span_eq_iff]
  constructor
  · rintro ⟨hne, ht, hall, hstop⟩
    exact ⟨hne, hall, hstop, ht⟩
  · rintro ⟨hne, hall, hstop, ht⟩
    exact ⟨hne, ht, hall, hstop⟩

theorem quote?_eq_some {t rest : Text} {q : Char} :
    quote? t = some (q, rest) ↔ isQuote q = true ∧ t = q :: rest := by
  cases t with
  | nil => simp [quote?]
  | cons c t =>
    by_cases hc : isQuote c = true
    · simp only [quote?, hc, if_true, Option.some.injEq, Prod.mk.injEq, List.cons.injEq]
      constructor
      · rintro ⟨rfl, rfl⟩; exact ⟨hc, rfl, rfl⟩
      · rintro ⟨_, rfl, rfl⟩; exact ⟨rfl, rfl⟩
    · simp only [quote?, hc, if_false, reduceCtorEq, List.cons.injEq, false_iff, not_and]
      rintro hq rfl
      exact absurd hq hc

theorem isBlank_quote {q : Char} (h : isQuote q = true) : isBlank q = false := by
  simp only [isQuote, Bool.or_eq_true, beq_iff_eq] at h
  rcases h with (rfl | rfl) | rfl <;> decide

theorem plainLiteral?_eq_some {t url rest : Text} :
    plainLiteral? t = some (url, rest) ↔
      ∃ q, isQuote q = true ∧ url ≠ [] ∧ (∀ c ∈ url, isQuote c = false) ∧
        t = q :: url ++ q :: rest := by
  simp only [plainLiteral?, Option.bind_eq_bind, Option.bind_eq_some_iff, Option.pure_def,
    Option.some.injEq, Prod.exists, Prod.mk.injEq, quote?_eq_some, run?_eq_some, after?_eq_some]
  constructor
  · rintro ⟨q, _, ⟨hq, rfl⟩, _, _, ⟨hne, hall, _, rfl⟩, _, rfl, rfl, rfl⟩
    exact ⟨q, hq, hne, by simpa using hall, rfl⟩
  · rintro ⟨q, hq, hne, hall, rfl⟩
    refine ⟨q, _, ⟨hq, rfl⟩, url, q :: rest, ⟨hne, by simpa using hall, ?_, rfl⟩, rest, rfl, rfl, rfl⟩
    rintro c ⟨rfl⟩
    simp [hq]

theorem lineLiteral?_eq_some {t title rest : Text} :
    lineLiteral? t = some (title, rest) ↔
      ∃ q, isQuote q = true ∧ title ≠ [] ∧ (∀ c ∈ title, c ≠ q ∧ c ≠ '\n') ∧
        t = q :: title ++ q :: rest := by
  simp only [lineLiteral?, Option.bind_eq_bind, Option.bind_eq_some_iff, Option.pure_def,
    Option.some.injEq, Prod.exists, Prod.mk.injEq, quote?_eq_some, run?_eq_some, after?_eq_some]
  constructor
  · rintro ⟨q, _, ⟨hq, rfl⟩, _, _, ⟨hne, hall, _, rfl⟩, _, rfl, rfl, rfl⟩
    exact ⟨q, hq, hne, by simpa using hall, rfl⟩
  · rintro ⟨q, hq, hne, hall, rfl⟩
    refine ⟨q, _, ⟨hq, rfl⟩, title, q :: rest, ⟨hne, by simpa using hall, ?_, rfl⟩, rest, rfl, rfl,
      rfl⟩
    rintro c ⟨rfl⟩
    simp

/-- A marked character stands at the first mark of the text or behind it. -/
theorem split_first {p : Char → Bool} {u v u' v' : Text} {a a' : Char}
    (hu : ∀ c ∈ u, p c = false) (ha' : p a' = true) (h : u ++ a :: v = u' ++ a' :: v') :
    u' = u ∧ a' = a ∧ v' = v ∨ ∃ w, u' = u ++ a :: w ∧ v = w ++ a' :: v' := by
  rcases List.append_eq_append_iff.1 h with ⟨w, rfl, hw⟩ | ⟨w, rfl, hw⟩
  · cases w with
    | nil =>
      obtain ⟨rfl, rfl⟩ := List.cons.inj hw
      exact .inl ⟨List.append_nil u, rfl, rfl⟩
    | cons b w =>
      obtain ⟨rfl, hv⟩ := List.cons.inj hw
      exact .inr ⟨w, rfl, hv⟩
  · cases w with
    | nil =>
      obtain ⟨rfl, rfl⟩ := List.cons.inj hw
      exact .inl ⟨(List.append_nil u').symm, rfl, rfl⟩
    | cons b w =>
      obtain ⟨rfl, _⟩ := List.cons.inj hw
      have := hu a' (by simp)
      rw [ha'] at this
      cases this

/-- A text splits at a character in one way, where the character stands in neither front. -/
theorem split_unique {a : Char} {u v u' v' : Text} (hu : a ∉ u) (hu' : a ∉ u')
    (h : u ++ a :: v = u' ++ a :: v') : u = u' ∧ v = v' := by
  have hmark : ∀ c ∈ u, (c == a) = false := by
    intro c hc
    refine beq_eq_false_iff_ne.2 ?_
    rintro rfl
    exact hu hc
  rcases split_first hmark (beq_self_eq_true a) h with ⟨rfl, _, rfl⟩ | ⟨w, rfl, _⟩
  · exact ⟨rfl, rfl⟩
  · simp at hu'

end EndpointManifest.Text
