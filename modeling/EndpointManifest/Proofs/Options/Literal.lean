import EndpointManifest.Delimiter
import EndpointManifest.Proofs.Text.Reader

/-! Object literals as they are written: entries with bare or quoted keys and values that end where
their first character says, any blanks between the parts, perhaps a comma after the last entry. -/

namespace EndpointManifest

open Text

structure Gap where
  text : Text
  blank : AllBlank text

inductive WrittenKey where
  | bare (name : Text)
  | quoted (quote : Char) (name : Text)

namespace WrittenKey

def name : WrittenKey → Text
  | bare name => name
  | quoted _ name => name

def text : WrittenKey → Text
  | bare name => name
  | quoted quote name => quote :: name ++ [quote]

/-- A bare key is an identifier; a quoted one ends at the quote that opens it. -/
def WellFormed : WrittenKey → Prop
  | bare name => ∃ c rest, name = c :: rest ∧ isNameStart c = true ∧ ∀ d ∈ rest, isNameChar d = true
  | quoted quote name => (quote = '\'' ∨ quote = '"') ∧ ∀ c ∈ name, c ≠ quote ∧ c ≠ '\\'

def IsPlain : WrittenKey → Prop
  | bare _ => True
  | quoted _ name => name ≠ [] ∧ ∀ c ∈ name, isKeyChar c = true

end WrittenKey

def isAtomChar (c : Char) : Bool :=
  isAsciiLetter c || isAsciiDigit c || c == '_' || c == '$' || c == '.' || c == '+' || c == '-'

inductive IsValue : Text → Prop where
  | block {c : Char} {rest : Text} (h : Delimiter.blockEnd? (c :: rest) = some rest.length) :
      IsValue (c :: rest)
  | literal {c : Char} {rest : Text} (h : Delimiter.literalEnd? (c :: rest) = some rest.length) :
      IsValue (c :: rest)
  | atom {c : Char} {rest : Text} (h : ∀ d ∈ c :: rest, isAtomChar d = true) : IsValue (c :: rest)
  | call {c : Char} {rest arguments : Text} (gap : Gap) (hstart : isNameStart c = true)
      (hname : ∀ d ∈ rest, isAtomChar d = true ∧ isPathChar d = true)
      (h : Delimiter.blockEnd? ('(' :: arguments) = some arguments.length) :
      IsValue (c :: rest ++ (gap.text ++ '(' :: arguments))

structure Entry where
  front : Gap
  key : WrittenKey
  beforeColon : Gap
  afterColon : Gap
  value : Text
  back : Gap
  isKey : key.WellFormed
  isValue : IsValue value

namespace Entry

def text (e : Entry) : Text :=
  e.key.text ++ (e.beforeColon.text ++ ':' :: (e.afterColon.text ++ e.value))

def padded (e : Entry) : Text := e.front.text ++ (e.text ++ e.back.text)

end Entry

structure Literal where
  entries : List Entry
  /-- A comma after the last entry. -/
  trailing : Bool
  ending : Gap
  isEnding : trailing = true → entries ≠ []

namespace Literal

def renderEntries (ending : Text) : List Entry → Text
  | [] => ending
  | [e] => e.padded ++ ending
  | e :: es => e.padded ++ ',' :: renderEntries ending es

def close (o : Literal) : Text := (if o.trailing then [','] else []) ++ (o.ending.text ++ ['}'])

def render (o : Literal) : Text := '{' :: renderEntries o.close o.entries

/-- What can follow an entry, or stand in place of one. -/
def Closes (t : Text) : Prop :=
  ∃ bl c rest, AllBlank bl ∧ (c = ',' ∨ c = '}') ∧ t = bl ++ c :: rest

theorem Closes.skipBlanks {t : Text} (h : Closes t) :
    ∃ c rest, (c = ',' ∨ c = '}') ∧ Text.skipBlanks t = c :: rest := by
  obtain ⟨bl, c, rest, hbl, hc, rfl⟩ := h
  have hblank : isBlank c = false := by rcases hc with rfl | rfl <;> decide
  exact ⟨c, rest, hc, skipBlanks_eq_cons_iff.2 ⟨hblank, bl, hbl, rfl⟩⟩

theorem closes_append {bl t : Text} (h : AllBlank bl) (ht : Closes t) : Closes (bl ++ t) := by
  obtain ⟨bl', c, rest, hbl', hc, rfl⟩ := ht
  exact ⟨bl ++ bl', c, rest, allBlank_append.2 ⟨h, hbl'⟩, hc, by simp⟩

/-- Text without comma and closing brace that ends in no blank does not reach over what closes an
entry. -/
theorem Closes.not_append {v a rest m : Text} {q : Char} (hv : Closes v)
    (h : v = a ++ rest) (hne : a ≠ []) (hsub : ∀ d ∈ a, d ∈ m) (hlast : a.getLast? = some q)
    (hblank : isBlank q = false) (hm : ∀ d, d = ',' ∨ d = '}' → d ∉ m) : False := by
  obtain ⟨gap, d, v', hgap, hd, rfl⟩ := hv
  have hq : q ∈ a := List.mem_of_getLast? hlast
  rcases List.append_eq_append_iff.1 h with ⟨a', rfl, hrest⟩ | ⟨g, rfl, hrest⟩
  · cases a' with
    | nil =>
      rw [List.append_nil] at hq
      rw [hgap q hq] at hblank
      cases hblank
    | cons e a' =>
      obtain ⟨rfl, _⟩ := List.cons.inj hrest
      exact hm d hd (hsub d (by simp))
  · rw [hgap q (by simp [hq])] at hblank
    cases hblank

/-- What such a text is found to start with ends before what closes the entry. -/
theorem Closes.split {u v m rest : Text} {q : Char} (hv : Closes v) (h : u ++ v = m ++ rest)
    (hlast : m.getLast? = some q) (hblank : isBlank q = false)
    (hm : ∀ d, d = ',' ∨ d = '}' → d ∉ m) : ∃ a, u = m ++ a ∧ rest = a ++ v := by
  rcases List.append_eq_append_iff.1 h with ⟨a, rfl, hva⟩ | ⟨a, ha, hra⟩
  · by_cases hnil : a = []
    · subst hnil
      exact ⟨[], by simp, hva.symm⟩
    · rw [List.getLast?_append_of_ne_nil _ hnil] at hlast
      exact (hv.not_append hva hnil (fun d hd => List.mem_append_right _ hd) hlast hblank hm).elim
  · exact ⟨a, ha, hra⟩

theorem closes_close (o : Literal) : Closes o.close := by
  rw [close]
  split
  · exact ⟨[], ',', _, allBlank_nil, .inl rfl, rfl⟩
  · exact ⟨o.ending.text, '}', [], o.ending.blank, .inr rfl, rfl⟩

/-- What stands behind an entry: a comma and the next entries, or what ends the object. -/
def behind (ending : Text) : List Entry → Text
  | [] => ending
  | e :: es => ',' :: renderEntries ending (e :: es)

theorem renderEntries_behind (ending : Text) (e : Entry) (es : List Entry) :
    renderEntries ending (e :: es) = e.padded ++ behind ending es := by
  cases es <;> rfl

theorem closes_behind {ending : Text} (h : Closes ending) (es : List Entry) :
    Closes (behind ending es) := by
  cases es with
  | nil => exact h
  | cons e es => exact ⟨[], ',', _, allBlank_nil, .inl rfl, rfl⟩

theorem renderEntries_append (x y : Text) (es : List Entry) :
    renderEntries (x ++ y) es = renderEntries x es ++ y := by
  induction es with
  | nil => rfl
  | cons e es ih =>
    rw [renderEntries_behind, renderEntries_behind, List.append_assoc]
    cases es with
    | nil => rfl
    | cons e' es => rw [behind, behind, ih, List.cons_append]

theorem mem_renderEntries {ending : Text} {es : List Entry} {c : Char}
    (h : c ∈ renderEntries ending es) : c ∈ ending ∨ c = ',' ∨ ∃ e ∈ es, c ∈ e.padded := by
  induction es with
  | nil => exact .inl h
  | cons e es ih =>
    rw [renderEntries_behind, List.mem_append] at h
    rcases h with h | h
    · exact .inr (.inr ⟨e, by simp, h⟩)
    · cases es with
      | nil => exact .inl h
      | cons e' es =>
        rcases List.mem_cons.1 h with rfl | h
        · exact .inr (.inl rfl)
        · exact (ih h).imp_right (.imp_right fun ⟨e'', he'', hc⟩ => ⟨e'', by simp [he''], hc⟩)

end Literal
end EndpointManifest
