import EndpointManifest.Proofs.Delimiter.Escape
import EndpointManifest.Proofs.Options.Body
import EndpointManifest.Proofs.Text.Layout

/-! A cleaned text tells the words of the text that was cleaned and nothing else, so that what is
recorded of a body does not depend on how the body is laid out. That needs more than cleaning: laid
out in another way a block, a literal or a call must still end where it did. Brackets are counted
and blanks are no brackets, so blocks do; and a backslash in a literal escapes the one character
behind it, which may be a blank, but a gap has at least one. -/

namespace EndpointManifest

open Text

namespace Delimiter

variable {o c q : Char} {rest : Text}

theorem closer?_not_blank (h : closer? o = some c) : isBlank o = false ∧ isBlank c = false := by
  unfold closer? at h
  split_ifs at h with h₁ h₂ h₃ <;>
  · obtain rfl := Option.some.inj h
    subst o
    decide

/-- How many brackets are open behind a character; none when it closes the last one. -/
def nextDepth (o c : Char) (depth : Nat) (d : Char) : Option Nat :=
  if d = o then some (depth + 1)
  else if d = c then if depth ≤ 1 then none else some (depth - 1)
  else some depth

/-- Blanks leave the brackets as they are. -/
theorem scans_closingFrom (hpair : closer? o = some c) :
    Scans (closingFrom o c) (nextDepth o c) where
  cons := by
    intro depth d t
    rw [closingFrom, nextDepth]
    split_ifs <;> rfl
  blank := by
    intro depth
    obtain ⟨ho, hc⟩ := closer?_not_blank hpair
    have hstays {b : Char} (hb : isBlank b = true) : nextDepth o c depth b = some depth := by
      have hbo : b ≠ o := by rintro rfl; rw [hb] at ho; cases ho
      have hbc : b ≠ c := by rintro rfl; rw [hb] at hc; cases hc
      rw [nextDepth, if_neg hbo, if_neg hbc]
    exact ⟨depth, fun b hb => ⟨hstays hb, hstays hb⟩⟩

/-- The next quote, where the first character may be an escaped one. -/
def quoteBehind (q : Char) (escaped : Bool) (t : Text) : Option Nat :=
  if escaped then
    match t with
    | [] => none
    | _ :: rest => (quoteFrom q rest).map (· + 1)
  else quoteFrom q t

/-- Whether the character behind is escaped; none when the quote closes the literal. -/
def nextEscaped (q : Char) (escaped : Bool) (d : Char) : Option Bool :=
  if escaped then some false else if d = '\\' then some true else if d = q then none else some false

/-- One blank may be escaped, and behind it none is. -/
theorem scans_quoteBehind (hq : isQuote q = true) : Scans (quoteBehind q) (nextEscaped q) where
  cons := by
    intro escaped d t
    cases escaped with
    | true => rfl
    | false =>
      by_cases hslash : d = '\\'
      · subst hslash
        cases t with
        | nil => rfl
        | cons e t =>
          simp only [quoteBehind, nextEscaped, Bool.false_eq_true, if_false, if_true,
            Option.elim_some, Option.map_map, quoteFrom]
          rfl
      · simp only [quoteBehind, nextEscaped, Bool.false_eq_true, if_false, if_neg hslash,
          quoteFrom_cons hslash]
        split_ifs <;> rfl
  blank := by
    intro escaped
    have hbehind {b : Char} (hb : isBlank b = true) (escaped : Bool) :
        nextEscaped q escaped b = some false := by
      have hslash : b ≠ '\\' := by rintro rfl; exact absurd hb (by decide)
      have hquote : b ≠ q := by rintro rfl; rw [isBlank_quote hq] at hb; cases hb
      cases escaped <;> simp [nextEscaped, hslash, hquote]
    exact ⟨false, fun b hb => ⟨hbehind hb escaped, hbehind hb false⟩⟩

theorem blockEnd?_eq_length : blockEnd? (o :: rest) = some rest.length ↔
    ∃ c, closer? o = some c ∧ EndsAtLast (closingFrom o c 1) rest := by
  simp only [blockEnd?, Option.bind_eq_bind, Option.bind_eq_some_iff, Option.map_eq_map,
    Option.map_eq_some_iff, EndsAtLast, eq_comm (a := rest.length)]

theorem literalEnd?_eq_length : literalEnd? (q :: rest) = some rest.length ↔
    isQuote q = true ∧ EndsAtLast (quoteBehind q false) rest := by
  simp only [literalEnd?, quoteBehind, EndsAtLast, Bool.false_eq_true, if_false,
    eq_comm (a := rest.length)]
  split_ifs with hq <;> simp [hq]

theorem getLast?_of_split {t inside after : Text} {d : Char} (h : t = inside ++ d :: after)
    (hlength : t.length = inside.length + 1) : t.getLast? = some d := by
  obtain rfl : after = [] := by
    refine List.eq_nil_of_length_eq_zero ?_
    rw [h, List.length_append, List.length_cons] at hlength
    omega
  rw [h, List.getLast?_concat]

theorem getLast?_block (h : blockEnd? (o :: rest) = some rest.length) :
    ∃ c, closer? o = some c ∧ (o :: rest).getLast? = some c := by
  obtain ⟨o, c, inside, _, hpair, -, hsplit, hlength⟩ := blockEnd?_eq_some.1 h
  obtain ⟨rfl, -⟩ := List.cons.inj hsplit
  rw [← List.cons_append] at hsplit
  exact ⟨c, hpair, getLast?_of_split hsplit (congrArg Nat.succ hlength)⟩

theorem getLast?_literal (h : literalEnd? (q :: rest) = some rest.length) :
    isQuote q = true ∧ (q :: rest).getLast? = some q := by
  obtain ⟨_, inside, _, hq, hsplit, hlength, -⟩ := literalEnd?_eq_some.1 h
  obtain ⟨rfl, -⟩ := List.cons.inj hsplit
  rw [← List.cons_append] at hsplit
  exact ⟨hq, getLast?_of_split hsplit (congrArg Nat.succ hlength)⟩

end Delimiter

namespace IsValue

variable {value value' : Text}

theorem trimmed (h : IsValue value) : Trimmed value := by
  constructor
  · obtain ⟨c, rest, rfl, hc⟩ := Key.head_of_isValue h
    rintro d ⟨rfl⟩
    exact hc
  · intro d hd
    cases h with
    | block h =>
      obtain ⟨c, hpair, hlast⟩ := Delimiter.getLast?_block h
      obtain rfl := Option.some.inj (hd.symm.trans hlast)
      exact (Delimiter.closer?_not_blank hpair).2
    | literal h =>
      obtain ⟨hq, hlast⟩ := Delimiter.getLast?_literal h
      obtain rfl := Option.some.inj (hd.symm.trans hlast)
      exact isBlank_quote hq
    | atom h => exact (Key.isAtomChar_ne (h d (List.mem_of_getLast? hd))).1
    | call gap _ _ h =>
      obtain ⟨c, hpair, hlast⟩ := Delimiter.getLast?_block h
      obtain rfl := Option.some.inj (hd.symm.trans (List.mem_getLast?_append_of_mem_getLast?
        (List.mem_getLast?_append_of_mem_getLast? hlast)))
      exact (Delimiter.closer?_not_blank hpair).2

theorem relaid (h : IsValue value) (hrelaid : Relaid value value') (htrimmed : Trimmed value') :
    IsValue value' := by
  have haligned := hrelaid.aligned h.trimmed htrimmed
  obtain ⟨c, _, hvalue, hc⟩ := Key.head_of_isValue h
  -- the same character opens both, and behind it the scan for the end sees aligned texts
  cases h with
  | @block o rest h =>
    obtain ⟨rfl, rfl⟩ := List.cons.inj hvalue
    obtain ⟨rest', rfl, hrest⟩ := haligned.of_cons hc
    obtain ⟨c, hpair, hends⟩ := Delimiter.blockEnd?_eq_length.1 h
    refine .block (Delimiter.blockEnd?_eq_length.2 ⟨c, hpair, ?_⟩)
    exact ((Delimiter.scans_closingFrom hpair).endsAtLast_aligned hrest 1).1 hends
  | @literal q rest h =>
    obtain ⟨rfl, rfl⟩ := List.cons.inj hvalue
    obtain ⟨rest', rfl, hrest⟩ := haligned.of_cons hc
    obtain ⟨hq, hends⟩ := Delimiter.literalEnd?_eq_length.1 h
    refine .literal (Delimiter.literalEnd?_eq_length.2 ⟨hq, ?_⟩)
    exact ((Delimiter.scans_quoteBehind hq).endsAtLast_aligned hrest false).1 hends
  | atom h =>
    -- a single word has no other layout
    rw [← List.append_nil (_ :: _)] at haligned
    obtain ⟨u, rfl, hu⟩ := haligned.of_append fun d hd => (Key.isAtomChar_ne (h d hd)).1
    rw [hu.eq_nil_iff.1 rfl, List.append_nil]
    exact .atom h
  | @call first name arguments gap hstart hname h =>
    obtain ⟨rfl, -⟩ := List.cons.inj hvalue
    have hword : ∀ d ∈ first :: name, isBlank d = false :=
      List.forall_mem_cons.2 ⟨hc, fun d hd => (Key.isAtomChar_ne (hname d hd).1).1⟩
    obtain ⟨u, rfl, hu⟩ := haligned.of_append hword
    obtain ⟨gap', arguments', hgap, rfl, harguments⟩ := hu.of_blanks gap.blank (by decide)
    obtain ⟨c, hpair, hends⟩ := Delimiter.blockEnd?_eq_length.1 h
    refine .call ⟨gap', hgap⟩ hstart hname (Delimiter.blockEnd?_eq_length.2 ⟨c, hpair, ?_⟩)
    exact ((Delimiter.scans_closingFrom hpair).endsAtLast_aligned harguments 1).1 hends

theorem head?_relaid (h : IsValue value) (h' : IsValue value') (hrelaid : Relaid value value') :
    value'.head? = value.head? := by
  have haligned := hrelaid.aligned h.trimmed h'.trimmed
  obtain ⟨c, rest, rfl, hc⟩ := Key.head_of_isValue h
  obtain ⟨rest', rfl, -⟩ := haligned.of_cons hc
  rfl

end IsValue

/-- The same key with a value that is laid out in another way, and any blanks around them. -/
structure Entry.Relaid (e e' : Entry) : Prop where
  key : e'.key = e.key
  value : Text.Relaid e.value e'.value

namespace Options

def payload? (options : Text) : Option Text := do
  written? (options.drop (← valueStart? options ["data".toList, "body".toList]))

theorem isPrefix_of_written? {value p : Text} (h : written? value = some p) : p <+: value := by
  cases value with
  | nil => cases h
  | cons c rest =>
    simp only [written?] at h
    split_ifs at h
    · obtain ⟨n, -, rfl⟩ := Option.map_eq_some_iff.1 h
      exact List.take_prefix ..
    · split at h
      · obtain rfl := Option.some.inj h
        exact List.take_prefix ..
      · split at h
        · obtain ⟨n, -, rfl⟩ := Option.map_eq_some_iff.1 h
          exact List.take_prefix ..
        · obtain ⟨⟨front, back⟩, hrun, rfl⟩ := Option.map_eq_some_iff.1 h
          obtain ⟨-, -, -, hsplit⟩ := run?_eq_some.1 hrun
          exact ⟨back, hsplit.symm⟩

theorem body?_eq_clean (options : Text) : body? options = (payload? options).bind clean? := by
  unfold body? payload?
  cases valueStart? options ["data".toList, "body".toList] with
  | none => rfl
  | some start => exact value?_eq_clean (options.drop start)

theorem payload?_isInfix {options p : Text} (h : payload? options = some p) : p <:+: options := by
  obtain ⟨start, -, h⟩ := Option.bind_eq_some_iff.1 h
  exact (isPrefix_of_written? h).isInfix.trans (List.drop_suffix start options).isInfix

theorem words_of_clean? {t b : Text} (h : clean? t = some b) : words b = words t := by
  rw [clean?_eq] at h
  split_ifs at h
  obtain rfl := Option.some.inj h
  exact words_join fun w hw => of_mem_words hw

theorem clean?_bind_clean? (t : Text) : (clean? t).bind clean? = clean? t := by
  cases h : clean? t with
  | none => rfl
  | some b => rw [Option.bind_some, clean?_eq, words_of_clean? h, ← clean?_eq, h]

theorem filter_clean? (t : Text) :
    ((clean? t).getD []).filter (!isBlank ·) = t.filter (!isBlank ·) := by
  have hcleaned : (clean? t).getD [] = collapseBlanks (trim t) := by
    unfold clean?
    split
    · next h => rw [h]; rfl
    · rfl
  rw [hcleaned, filter_collapseBlanks, filter_trim]

/-- Two texts are cleaned to the same if and only if they have the same words. -/
theorem clean?_eq_clean?_iff {t u : Text} : clean? u = clean? t ↔ Relaid t u := by
  rw [relaid_iff]
  constructor
  · intro h
    cases ht : clean? t with
    | none =>
      have hnone {x : Text} (hx : clean? x = none) : words x = [] := by
        rw [clean?_eq] at hx
        split_ifs at hx with hwords
        exact hwords
      rw [hnone ht, hnone (h.trans ht)]
    | some b => rw [← words_of_clean? ht, ← words_of_clean? (h.trans ht)]
  · intro h
    rw [clean?_eq, clean?_eq, h]

theorem body?_relaid {o o' : Literal} (hplain : ∀ e ∈ o.entries, e.key.IsPlain)
    (hrelaid : List.Forall₂ Entry.Relaid o.entries o'.entries)
    (hparen : ∀ e, o.entries.find? (Entry.isNamed ["data".toList, "body".toList]) = some e →
      e.value.head? ≠ some '(') : body? o'.render = body? o.render := by
  have hkeys : o'.entries.map (·.key) = o.entries.map (·.key) := by
    rw [← List.forall₂_eq_eq_eq, List.forall₂_map_left_iff, List.forall₂_map_right_iff]
    exact hrelaid.flip.imp fun _ _ h => h.key
  have hplain' : ∀ e ∈ o'.entries, e.key.IsPlain := by
    rw [← List.forall_mem_map (f := Entry.key) (P := WrittenKey.IsPlain)] at hplain ⊢
    rwa [hkeys]
  obtain ⟨hfind, hfind'⟩ := find?_zip (p := Entry.isNamed ["data".toList, "body".toList])
    (q := Entry.isNamed ["data".toList, "body".toList])
    (fun e e' h => by rw [Entry.isNamed, Entry.isNamed, h.key]) hrelaid
  cases hpair : (o.entries.zip o'.entries).find? fun pair =>
      Entry.isNamed ["data".toList, "body".toList] pair.2 with
  | none =>
    rw [hpair] at hfind hfind'
    rw [body?_of_find_none hplain hfind, body?_of_find_none hplain' hfind']
  | some pair =>
    obtain ⟨e, e'⟩ := pair
    rw [hpair] at hfind hfind'
    have h := List.forall₂_zip hrelaid (List.mem_of_find?_eq_some hpair)
    have hhead := e.isValue.head?_relaid e'.isValue h.value
    rw [body?_of_find hplain hfind (hparen e hfind),
      body?_of_find hplain' hfind' (by rw [hhead]; exact hparen e hfind), relaid_iff.1 h.value]

/-- A text is cleaned to its maximal runs of characters that are not blank, with single spaces
between them, and to nothing if it has none. So cleaning twice is cleaning once, all that is not
blank is kept in order, and two texts are cleaned to the same if and only if they are layouts of the
same words. What is recorded of a body is the cleaned payload, the value as far as it is read, and
so it is the same for every layout of the payload. It is the same for every layout of an object
literal too, since a value laid out in another way is still one and ends where it did. -/
theorem clean?_forgets_layout :
    (∀ t, ∃ ws, (∀ ws', LaidOut ws' t ↔ ws' = ws) ∧
      clean? t = if ws = [] then none else some (join [' '] ws)) ∧
    (∀ t, (clean? t).bind clean? = clean? t) ∧
    (∀ t, ((clean? t).getD []).filter (!isBlank ·) = t.filter (!isBlank ·)) ∧
    (∀ t u, clean? u = clean? t ↔ Relaid t u) ∧
    (∀ options, body? options = (payload? options).bind clean? ∧
      ∀ p, payload? options = some p → p <:+: options ∧
        ∀ options' p', payload? options' = some p' → Relaid p p' →
          body? options' = body? options) ∧
    (∀ value value', IsValue value → Relaid value value' → Trimmed value' → IsValue value') ∧
    ∀ o o' : Literal, (∀ e ∈ o.entries, e.key.IsPlain) →
      List.Forall₂ Entry.Relaid o.entries o'.entries →
      (∀ e, o.entries.find? (Entry.isNamed ["data".toList, "body".toList]) = some e →
        e.value.head? ≠ some '(') →
      body? o'.render = body? o.render := by
  refine ⟨fun t => ⟨words t, fun ws' => laidOut_iff, clean?_eq t⟩, clean?_bind_clean?,
    filter_clean?, fun t u => clean?_eq_clean?_iff,
    fun options => ⟨body?_eq_clean options, fun p hp => ?_⟩, fun value value' => IsValue.relaid,
    fun o o' => body?_relaid⟩
  refine ⟨payload?_isInfix hp, fun options' p' hp' hrelaid => ?_⟩
  rw [body?_eq_clean, body?_eq_clean, hp, hp', Option.bind_some, Option.bind_some,
    clean?_eq_clean?_iff]
  exact hrelaid

/-- A call with a list and an escaped quote, on one line and on several, in an object literal and
in a text that is none. -/
theorem clean?_forgets_layout_call :
    let value := "f ([ 'it\\'s', 1 ])".toList
    let value' := "f\n  ([\n\t'it\\'s',\n\t1\n])".toList
    let empty : Gap := ⟨[], allBlank_nil⟩
    let blank : Gap := ⟨[' '], allBlank_space⟩
    let line : Gap := ⟨['\n', ' '], by decide⟩
    let isKey : (WrittenKey.bare "data".toList).WellFormed := ⟨'d', _, rfl, by decide, by decide⟩
    let isValue : IsValue value := @IsValue.call 'f' [] "[ 'it\\'s', 1 ])".toList blank
      (by decide) (by decide) (by decide)
    ∃ isValue' : IsValue value',
      let e : Entry := ⟨blank, .bare "data".toList, empty, blank, value, blank, isKey, isValue⟩
      let e' : Entry := ⟨line, .bare "data".toList, empty, line, value', empty, isKey, isValue'⟩
      let o : Literal := ⟨[e], false, empty, by simp⟩
      let o' : Literal := ⟨[e'], true, line, by simp⟩
      let options := "body: f\t([ 'it\\'s',\n1 ]) + 1".toList
      o.render = "\x7b data: f ([ 'it\\'s', 1 ]) \x7d".toList ∧
        o'.render = "\x7b\n data:\n f\n  ([\n\t'it\\'s',\n\t1\n]),\n \x7d".toList ∧
        body? o'.render = body? o.render ∧ body? options = body? o.render ∧
        body? o.render = some value := by
  intro value value' empty blank line isKey isValue
  obtain ⟨-, -, -, -, hpayload, hvalue, hliteral⟩ := clean?_forgets_layout
  have hrelaid : Relaid value value' := relaid_iff.2 (by decide)
  have htrimmed : Trimmed value' := by
    constructor
    · rintro c ⟨rfl⟩
      decide
    · rintro c ⟨rfl⟩
      decide
  refine ⟨hvalue value value' isValue hrelaid htrimmed, ?_⟩
  intro e e' o o' options
  have hplain : ∀ d ∈ o.entries, d.key.IsPlain := by
    intro d hd
    obtain rfl := List.mem_singleton.1 hd
    trivial
  have hparen : ∀ d, o.entries.find? (Entry.isNamed ["data".toList, "body".toList]) = some d →
      d.value.head? ≠ some '(' := by
    intro d hd
    obtain rfl := List.mem_singleton.1 (List.mem_of_find?_eq_some hd)
    decide
  have hwritten : payload? o.render = some value := by decide +kernel
  have hwritten' : payload? options = some "f\t([ 'it\\'s',\n1 ])".toList := by decide +kernel
  exact ⟨rfl, rfl, hliteral o o' hplain (.cons ⟨rfl, hrelaid⟩ .nil) hparen,
    ((hpayload o.render).2 value hwritten).2 options _ hwritten' (relaid_iff.2 (by decide)),
    by decide +kernel⟩

end Options
end EndpointManifest
