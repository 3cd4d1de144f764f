import EndpointManifest.Proofs.Assertion.Subject

/-! Each pattern of an assertion takes the words of its language. -/

namespace EndpointManifest.Assertion

open Text

variable {t rest : Text}

/-! ### What stands around the subject -/

theorem takes_opening : Takes Flush opening? opening :=
  (takes_anyCase _).andThen ((takes_mark (by decide)).andThen takes_blanks fun _ _ _ => trivial)
    fun _ _ _ => trivial

theorem takes_emptyParens : Takes (fun _ => True) afterEmptyParens? emptyParens :=
  (takes_mark (by decide)).andThen (takes_mark (by decide)) fun _ _ _ => trivial

/-- A parenthesis that closes stands behind no empty argument list that was not taken. -/
theorem takes_optionalParens :
    Takes (fun rest => ∃ x, afterMark? ')' rest = some x)
      (fun t => some ((afterEmptyParens? t).getD t)) (1 + emptyParens) := by
  intro t rest ⟨x, hx⟩
  have hnone : afterEmptyParens? rest = none := by
    obtain ⟨bl, hbl, rfl⟩ := (afterMark?_eq_some (by decide)).1 hx
    rw [afterEmptyParens?, afterMark?_eq_none hbl (by decide) (by decide)]
    rfl
  rw [begins_add, begins_one, ← takes_emptyParens t rest trivial, Option.some.injEq]
  cases hempty : afterEmptyParens? t with
  | none => simp
  | some u =>
    rw [Option.getD_some, Option.some.injEq]
    refine ⟨.inr, ?_⟩
    rintro (rfl | h)
    · rw [hempty] at hnone
      cases hnone
    · exact h

theorem takes_closing : Takes Flush closing? closing :=
  takes_optionalParens.andThen
    ((takes_mark (by decide)).andThen
      ((takes_mark (by decide)).andThen takes_blanks fun _ _ _ => trivial) fun _ _ _ => trivial)
    fun _ _ h => by
      obtain ⟨x, hx, _⟩ := Option.bind_eq_some_iff.1 h
      exact ⟨x, hx⟩

theorem takes_await : Takes Flush await? (anyCase "await".toList * someOf isBlank) := by
  refine (takes_anyCase _).andThen ?_ fun _ _ _ => trivial
  intro t rest hrest
  simp only [Option.bind_eq_bind, Option.bind_eq_some_iff, Option.pure_def, Option.some.injEq,
    Prod.exists, run?_eq_some, begins_eq]
  constructor
  · rintro ⟨bl, u, ⟨hne, hbl, hstop, rfl⟩, rfl⟩
    exact ⟨bl, ⟨hne, hbl⟩, by rw [flush_iff.2 hstop]⟩
  · rintro ⟨bl, ⟨hne, hbl⟩, rfl⟩
    exact ⟨bl, rest, ⟨hne, hbl, flush_iff.1 hrest, rfl⟩, hrest⟩

/-- `await` is read where it stands, also where it could begin the subject: up to the parenthesis
that follows the subject there is one way to read. -/
theorem awaiting?_eq_some {α : Type} {reader k : Text → Option α} {S : Language Char} {a : α}
    (hS : ∀ w ∈ S, Solid w) (hk : ∀ t a, k t = some a → AtParen t)
    (hreader : ∀ t a, reader t = some a ↔ Begins S (fun u => k u = some a) t) :
    awaiting? reader t = some a ↔ Begins awaited (fun u => reader u = some a) t := by
  have hawait (a : α) : (await? t >>= reader) = some a ↔
      Begins (anyCase "await".toList * someOf isBlank) (fun u => reader u = some a) t := by
    refine takes_await.bind fun t a h => ?_
    obtain ⟨s, hs, rest, rfl, _⟩ := (hreader t a).1 h
    exact (hS s hs).flush rest
  have hagree (a a' : α) (h : (await? t >>= reader) = some a) (h' : reader t = some a') :
      a = a' := by
    obtain ⟨w, hw, u, rfl, hu⟩ := (hawait a).1 h
    obtain ⟨s, hs, rest, rfl, ha⟩ := (hreader u a).1 hu
    obtain ⟨s', hs', rest', ht, ha'⟩ := (hreader _ a').1 h'
    have hsolid := solid_awaited (mem_optional.2 (.inr hw)) (hS s hs)
    rw [← List.append_assoc] at ht
    obtain ⟨_, rfl⟩ := hsolid.unique (hS s' hs') (hk _ _ ha) (hk _ _ ha') ht
    exact Option.some.inj (ha.symm.trans ha')
  rw [awaiting?, orElse_eq_some_of_agree hagree, hawait, awaited, begins_add, begins_one, or_comm]

/-! ### The frame of an assertion -/

theorem atParen_of_afterMark? {c : Char} (hc : isParen c = true) (h : afterMark? c t = some rest) :
    AtParen t := by
  obtain ⟨bl, hbl, rfl⟩ := (afterMark?_eq_some (not_blank_of_isParen hc)).1 h
  exact ⟨bl, c, rest, hbl, hc, rfl⟩

theorem atParen_of_closing? (h : closing? t = some rest) : AtParen t := by
  obtain ⟨u, hclose, _⟩ := Option.bind_eq_some_iff.1 h
  cases hempty : afterEmptyParens? t with
  | none =>
    rw [hempty] at hclose
    exact atParen_of_afterMark? (by decide) hclose
  | some v =>
    obtain ⟨x, hopen, _⟩ := Option.bind_eq_some_iff.1 hempty
    exact atParen_of_afterMark? (by decide) hopen

/-- An assertion about a subject: `expect(` and the subject, then what the matcher reads. -/
theorem expecting_eq_some {α : Type} {subject : Text → Option Text} {S : Language Char}
    {matcher : Text → Option α} {a : α} (hS : ∀ w ∈ S, Solid w) (hsubject : Takes AtParen subject S)
    (hmatcher : ∀ t a, matcher t = some a → Flush t) :
    (do awaiting? (fun t => do matcher (← closing? (← subject t))) (← opening? t)) = some a ↔
      Begins (expecting S) (fun u => matcher u = some a) t := by
  have hclosing (t : Text) (a : α) : (closing? t >>= matcher) = some a ↔
      Begins closing (fun u => matcher u = some a) t := takes_closing.bind hmatcher
  have hparen (t : Text) (a : α) (h : (closing? t >>= matcher) = some a) : AtParen t := by
    obtain ⟨u, hu, _⟩ := Option.bind_eq_some_iff.1 h
    exact atParen_of_closing? hu
  have hsubject (t : Text) (a : α) : (subject t >>= fun u => closing? u >>= matcher) = some a ↔
      Begins S (fun u => (closing? u >>= matcher) = some a) t := hsubject.bind hparen
  have hawaiting (t : Text) (a : α) := awaiting?_eq_some (t := t) (a := a) hS hparen hsubject
  have hflush (t : Text) (a : α)
      (h : awaiting? (fun t => subject t >>= fun u => closing? u >>= matcher) t = some a) :
      Flush t := by
    obtain ⟨w, hw, u, rfl, hu⟩ := (hawaiting t a).1 h
    obtain ⟨s, hs, rest, rfl, _⟩ := (hsubject u a).1 hu
    rw [← List.append_assoc]
    exact (solid_awaited hw (hS s hs)).flush rest
  refine (takes_opening.bind hflush).trans ?_
  rw [expecting, begins_mul, begins_mul, begins_mul]
  refine begins_congr fun u => (hawaiting u a).trans ?_
  exact begins_congr fun u => (hsubject u a).trans (begins_congr fun u => hclosing u a)

/-! ### The matchers -/

/-- Two names stand at the front of one text only if one of them begins with the other. -/
theorem prefix_of_afterAnyCase? {name name' u u' : Text} (h : afterAnyCase? name t = some u)
    (h' : afterAnyCase? name' t = some u') :
    name.map letterKey <+: name'.map letterKey ∨ name'.map letterKey <+: name.map letterKey := by
  obtain ⟨w, hw, rfl⟩ := afterAnyCase?_eq_some.1 h
  obtain ⟨w', hw', ht⟩ := afterAnyCase?_eq_some.1 h'
  rw [hw.keys_eq, hw'.keys_eq]
  have := List.prefix_or_prefix_of_prefix (List.prefix_append w u) ⟨u', ht.symm⟩
  exact this.imp (·.map letterKey) (·.map letterKey)

theorem argument_eq_some {α : Type} {front : Text → Option Text} {M : Language Char}
    {inside : Text → Option (α × Text)} {L : α → Language Char} {a : α}
    (hM : Takes (fun _ => True) front (M * mark '('))
    (hL : ∀ t a rest, inside t = some (a, rest) ↔ Begins (L a) (· = rest) t)
    (hflush : ∀ t r, inside t = some r → Flush t) :
    (do
      let rest ← front t
      let (a, rest) ← inside (skipBlanks rest)
      return (a, ← afterMark? ')' rest)) = some (a, rest) ↔
      Begins (M * argument (L a)) (· = rest) t := by
  have hinside (t : Text) : (do
      let (a, rest) ← inside t
      return (a, ← afterMark? ')' rest)) = some (a, rest) ↔
      Begins (L a) (Begins (mark ')') (· = rest)) t := by
    simp only [Option.bind_eq_bind, Option.bind_eq_some_iff, Prod.exists, Option.pure_def,
      Option.some.injEq, Prod.mk.injEq, hL, takes_mark (c := ')') (by decide) _ _ trivial]
    constructor
    · rintro ⟨b, _, ⟨w, hw, u, rfl, rfl⟩, _, hmark, rfl, rfl⟩
      exact ⟨w, hw, u, rfl, hmark⟩
    · rintro ⟨w, hw, u, rfl, hmark⟩
      exact ⟨a, u, ⟨w, hw, u, rfl, rfl⟩, rest, hmark, rfl, rfl⟩
  have hbind (t : Text) (r : α × Text) (h : (do
      let (a, rest) ← inside t
      return (a, ← afterMark? ')' rest)) = some r) : Flush t := by
    obtain ⟨x, hx, _⟩ := Option.bind_eq_some_iff.1 h
    exact hflush t x hx
  have hspaced (t : Text) := takes_blanks.bind (t := t) (a := (a, rest)) hbind
  refine (hM.bind fun _ _ _ => trivial).trans ?_
  simp only [argument, begins_mul]
  refine begins_congr fun _ => begins_congr fun u => (hspaced u).trans ?_
  exact begins_congr hinside

theorem takes_call (name : Text) : Takes (fun _ => True)
    (fun t => do afterMark? '(' (← afterAnyCase? name t)) (anyCase name * mark '(') :=
  (takes_anyCase name).andThen (takes_mark (by decide)) fun _ _ _ => trivial

theorem not_blank_of_digitValue? {c : Char} {n : Nat} (h : digitValue? c = some n) :
    isBlank c = false := by
  have hpoints : ∀ n ∈ blankPoints, digitValue? (Char.ofNat n) = none := by decide +kernel
  refine Bool.eq_false_iff.2 fun hblank => ?_
  have := hpoints _ (mem_blankPoints hblank)
  rw [Char.ofNat_toNat, h] at this
  cases this

theorem threeDigits?_eq_some {code : Nat} :
    threeDigits? t = some (code, rest) ↔ Begins (digits code) (· = rest) t := by
  rw [begins_eq]
  constructor
  · intro h
    match t, h with
    | a :: b :: c :: u, h =>
      simp only [threeDigits?, Option.bind_eq_bind, Option.bind_eq_some_iff, Option.pure_def,
        Option.some.injEq, Prod.mk.injEq] at h
      obtain ⟨x, hx, y, hy, z, hz, rfl, rfl⟩ := h
      exact ⟨[a, b, c], ⟨a, b, c, x, y, z, rfl, hx, hy, hz, rfl⟩, rfl⟩
  · rintro ⟨_, ⟨a, b, c, x, y, z, rfl, hx, hy, hz, rfl⟩, rfl⟩
    simp [threeDigits?, hx, hy, hz]

theorem threeDigits?_flush (t : Text) (r : Nat × Text) (h : threeDigits? t = some r) :
    Flush t := by
  obtain ⟨_, ⟨a, b, c, x, _, _, rfl, hx, _⟩, _, rfl, _⟩ := threeDigits?_eq_some.1 h
  exact flush_cons (not_blank_of_digitValue? hx) _

theorem lineLiteral?_flush (t : Text) (r : Text × Text) (h : lineLiteral? t = some r) :
    Flush t := by
  obtain ⟨q, hq, _, _, rfl⟩ := lineLiteral?_eq_some.1 h
  exact flush_cons (isBlank_quote hq) _

/-- Of the matchers' names none begins with another. -/
theorem takes_statusName : Takes (fun _ => True)
    (fun t => ["tobe".toList, "toequal".toList, "tostrictequal".toList].findSome? fun name => do
      afterMark? '(' (← afterAnyCase? name t))
    ((anyCase "tobe".toList + anyCase "toequal".toList + anyCase "tostrictequal".toList) *
      mark '(') := by
  intro t rest _
  have hapart : ∀ x ∈ ["tobe".toList, "toequal".toList, "tostrictequal".toList],
      ∀ y ∈ ["tobe".toList, "toequal".toList, "tostrictequal".toList],
        x.map letterKey <+: y.map letterKey → x = y := by decide
  rw [findSome?_eq_some_of_agree]
  · simp only [List.mem_cons, List.not_mem_nil, or_false, exists_eq_or_imp, exists_eq_left,
      takes_call _ t rest trivial, add_mul, begins_add, or_assoc]
  · intro x hx y hy a b ha hb
    obtain ⟨u, hxu, ha'⟩ := Option.bind_eq_some_iff.1 ha
    obtain ⟨v, hyv, hb'⟩ := Option.bind_eq_some_iff.1 hb
    obtain rfl : x = y := by
      rcases prefix_of_afterAnyCase? hxu hyv with h | h
      · exact hapart x hx y hy h
      · exact (hapart y hy x hx h).symm
    exact Option.some.inj (ha.symm.trans hb)

theorem statusMatcher?_eq_some {code : Nat} :
    statusMatcher? t = some (code, rest) ↔ Begins (statusMatcher code) (· = rest) t :=
  argument_eq_some takes_statusName (fun _ _ _ => threeDigits?_eq_some) threeDigits?_flush

theorem afterAnyCase?_flush {name : Text} (hne : name ≠ [])
    (hname : ∀ c ∈ name, isAsciiLetter c = true) (h : afterAnyCase? name t = some rest) :
    Flush t := by
  obtain ⟨w, hw, rfl⟩ := afterAnyCase?_eq_some.1 h
  exact (solid_of_sameLetters hne hname hw).flush rest

theorem takes_truthCall : Takes (fun _ => True) (fun t => do
      let rest ← afterMark? '(' (← afterAnyCase? "tobe".toList t)
      afterMark? ')' (← afterAnyCase? "true".toList (skipBlanks rest)))
    (anyCase "tobe".toList * argument (anyCase "true".toList)) := by
  have hinside := (takes_anyCase "true".toList).andThen (takes_mark (c := ')') (by decide))
    fun _ _ _ => trivial
  have hargument := takes_blanks.andThen hinside fun t rest h => by
    obtain ⟨u, hu, _⟩ := Option.bind_eq_some_iff.1 h
    exact afterAnyCase?_flush (by decide) (by decide) hu
  exact (takes_anyCase _).andThen ((takes_mark (by decide)).andThen hargument fun _ _ _ => trivial)
    fun _ _ _ => trivial

/-- Behind `tobe` stands a letter or a parenthesis, so only one of the two is read. -/
theorem truthMatcher?_eq_some :
    truthMatcher? t = some rest ↔ Begins truthMatcher (· = rest) t := by
  have htruthy := (takes_anyCase "tobetruthy".toList).andThen takes_emptyParens
    fun _ _ _ => trivial
  rw [truthMatcher?, orElse_eq_some_of_agree]
  · rw [htruthy t rest trivial, takes_truthCall t rest trivial, truthMatcher, begins_add]
  · intro a b ha hb
    exfalso
    obtain ⟨u, hu, _⟩ := Option.bind_eq_some_iff.1 ha
    obtain ⟨v, hv, hb⟩ := Option.bind_eq_some_iff.1 hb
    obtain ⟨x, hx, _⟩ := Option.bind_eq_some_iff.1 hb
    rw [show "tobetruthy".toList = "tobe".toList ++ "truthy".toList from rfl,
      afterAnyCase?_append, hv] at hu
    obtain ⟨w, hw, rfl⟩ := afterAnyCase?_eq_some.1 hu
    obtain ⟨c, y, hcw, _⟩ := (solid_of_sameLetters (by decide) (by decide) hw).first
    have hstop := (atParen_of_afterMark? (by decide) hx).not_pathChar c (by rw [hcw]; rfl)
    rw [isPathChar_of_sameLetters (by decide) hw c (by simp [hcw])] at hstop
    cases hstop

theorem containMatcher?_eq_some {text : Text} :
    containMatcher? t = some (text, rest) ↔ Begins (containMatcher text) (· = rest) t := by
  rw [← show _ = containMatcher? t from bind_assoc ..]
  exact argument_eq_some (takes_call _) (fun _ _ _ => lineLiteral?_iff_begins)
    lineLiteral?_flush

/-! ### The patterns -/

theorem statusMatcher?_flush (t : Text) (r : Nat × Text) (h : statusMatcher? t = some r) :
    Flush t := by
  obtain ⟨u, hu, _⟩ := Option.bind_eq_some_iff.1 h
  obtain ⟨name, hname, hu⟩ := List.exists_of_findSome?_eq_some hu
  obtain ⟨v, hv, _⟩ := Option.bind_eq_some_iff.1 hu
  have hletters : ∀ name ∈ ["tobe".toList, "toequal".toList, "tostrictequal".toList],
      name ≠ [] ∧ ∀ c ∈ name, isAsciiLetter c = true := by decide
  exact afterAnyCase?_flush (hletters name hname).1 (hletters name hname).2 hv

theorem truthMatcher?_flush (t rest : Text) (h : truthMatcher? t = some rest) : Flush t := by
  rcases orElse_eq_some.1 h with h | ⟨_, h⟩
  all_goals
    obtain ⟨u, hu, _⟩ := Option.bind_eq_some_iff.1 h
    exact afterAnyCase?_flush (by decide) (by decide) hu

theorem containMatcher?_flush (t : Text) (r : Text × Text) (h : containMatcher? t = some r) :
    Flush t := by
  obtain ⟨u, hu, _⟩ := Option.bind_eq_some_iff.1 h
  exact afterAnyCase?_flush (by decide) (by decide) hu

variable {b : Option Char}

theorem statusPattern_eq_some {code : Nat} :
    statusPattern b t = some (code, rest) ↔ Begins (statusAssertion code) (· = rest) t := by
  refine (expecting_eq_some (solid_member (by decide) (by decide))
    (takes_member (by decide) (by decide)) statusMatcher?_flush).trans ?_
  rw [statusAssertion, begins_mul]
  exact begins_congr fun _ => statusMatcher?_eq_some

theorem okPattern_eq_some {code : Nat} :
    okPattern b t = some (code, rest) ↔ code = okStatus ∧ Begins okAssertion (· = rest) t := by
  have hread := expecting_eq_some (t := t) (a := rest) (S := member "ok".toList)
    (solid_member (by decide) (by decide)) (takes_member (by decide) (by decide))
    truthMatcher?_flush
  rw [okAssertion, begins_mul, ← begins_congr fun _ => truthMatcher?_eq_some, ← hread]
  simp only [okPattern, Option.bind_eq_bind, Option.bind_eq_some_iff, Option.pure_def,
    Option.some.injEq, Prod.mk.injEq]
  constructor
  · rintro ⟨u, hu, _, hrest, rfl, rfl⟩
    exact ⟨rfl, u, hu, hrest⟩
  · rintro ⟨rfl, u, hu, hrest⟩
    exact ⟨u, hu, rest, hrest, rfl, rfl⟩

theorem textPattern_eq_some {text : Text} :
    textPattern b t = some (text, rest) ↔ Begins (textAssertion text) (· = rest) t := by
  refine (expecting_eq_some solid_textMember takes_textMember containMatcher?_flush).trans ?_
  rw [textAssertion, begins_mul]
  exact begins_congr fun _ => containMatcher?_eq_some

/-! Whether a pattern matches, and with which value, whatever is left behind the match. -/

theorem statusPattern_matches (b : Option Char) (t : Text) (code : Nat) :
    (∃ rest, statusPattern b t = some (code, rest)) ↔ ∃ w ∈ statusAssertion code, w <+: t := by
  simp only [statusPattern_eq_some, exists_begins_eq]

theorem okPattern_matches (b : Option Char) (t : Text) (code : Nat) :
    (∃ rest, okPattern b t = some (code, rest)) ↔
      code = okStatus ∧ ∃ w ∈ okAssertion, w <+: t := by
  simp only [okPattern_eq_some, exists_and_left, exists_begins_eq]

theorem textPattern_matches (b : Option Char) (t text : Text) :
    (∃ rest, textPattern b t = some (text, rest)) ↔ ∃ w ∈ textAssertion text, w <+: t := by
  simp only [textPattern_eq_some, exists_begins_eq]

end EndpointManifest.Assertion
