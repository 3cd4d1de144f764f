import EndpointManifest.Proofs.Text.Reader
import Mathlib.Computability.Language

/-! The languages that patterns are built of, and the readers that take their words. A pattern reads
its parts one after the other, so its language is the product of theirs. Most readers take the
longest word they can; then no way of reading is lost only where the text that follows allows no
longer one, and `Takes` says of what follows what it asks for. -/

namespace EndpointManifest.Text

def blanks : Language Char := {w | AllBlank w}

def mark (c : Char) : Language Char := {w | ∃ bl, AllBlank bl ∧ w = bl ++ [c]}

def anyCase (lit : Text) : Language Char := {w | SameLetters lit w}

def someOf (p : Char → Bool) : Language Char := {w | w ≠ [] ∧ ∀ c ∈ w, p c = true}

/-- A text on one line between two quotes of a kind that it lacks. -/
def quotedLine (text : Text) : Language Char :=
  {w | ∃ q, isQuote q = true ∧ text ≠ [] ∧ (∀ c ∈ text, c ≠ q ∧ c ≠ '\n') ∧ w = q :: text ++ [q]}

/-- The text begins with a word of the language, and what follows has the property. -/
def Begins (L : Language Char) (follows : Text → Prop) (t : Text) : Prop :=
  ∃ w ∈ L, ∃ rest, t = w ++ rest ∧ follows rest

/-- Before a rest with the property, the reader takes the words of the language and nothing else. -/
def Takes (follows : Text → Prop) (reader : Text → Option Text) (L : Language Char) : Prop :=
  ∀ t rest, follows rest → (reader t = some rest ↔ Begins L (· = rest) t)

def Flush (t : Text) : Prop := skipBlanks t = t

theorem mem_optional {L : Language Char} {w : Text} : w ∈ 1 + L ↔ w = [] ∨ w ∈ L := by
  rw [Language.mem_add, Language.mem_one]

section Begins

variable {p q : Text → Prop} {L M : Language Char} {t : Text}

theorem begins_one : Begins 1 p t ↔ p t := by
  simp [Begins, Language.mem_one]

theorem begins_add : Begins (L + M) p t ↔ Begins L p t ∨ Begins M p t := by
  simp only [Begins, Language.mem_add, or_and_right, exists_or]

theorem begins_mul : Begins (L * M) p = Begins L (Begins M p) := by
  funext t
  refine propext ⟨?_, ?_⟩
  · rintro ⟨_, ⟨w, hw, w', hw', rfl⟩, rest, rfl, h⟩
    exact ⟨w, hw, w' ++ rest, by simp, w', hw', rest, rfl, h⟩
  · rintro ⟨w, hw, _, rfl, w', hw', rest, rfl, h⟩
    exact ⟨w ++ w', Language.append_mem_mul hw hw', rest, by simp, h⟩

theorem begins_congr (h : ∀ u, p u ↔ q u) : Begins L p t ↔ Begins L q t := by
  rw [show p = q from funext fun u => propext (h u)]

theorem begins_eq {rest : Text} : Begins L (· = rest) t ↔ ∃ w ∈ L, t = w ++ rest := by
  simp [Begins]

theorem exists_begins_eq : (∃ rest, Begins L (· = rest) t) ↔ ∃ w ∈ L, w <+: t := by
  simp only [begins_eq]
  constructor
  · rintro ⟨rest, w, hw, rfl⟩
    exact ⟨w, hw, List.prefix_append w rest⟩
  · rintro ⟨w, hw, rest, rfl⟩
    exact ⟨rest, w, hw, rfl⟩

end Begins

section Readers

variable {α : Type} {P Q : Text → Prop} {reader next : Text → Option Text} {L M : Language Char}
variable {t rest : Text} {c : Char}

/-- A reader before one that reads only what may follow it. -/
theorem Takes.bind {k : Text → Option α} {a : α} (h : Takes P reader L)
    (hk : ∀ t a, k t = some a → P t) :
    (reader t >>= k) = some a ↔ Begins L (fun u => k u = some a) t := by
  simp only [Option.bind_eq_bind, Option.bind_eq_some_iff]
  constructor
  · rintro ⟨rest, hreader, ha⟩
    obtain ⟨w, hw, _, ht, rfl⟩ := (h t rest (hk rest a ha)).1 hreader
    exact ⟨w, hw, _, ht, ha⟩
  · rintro ⟨w, hw, rest, ht, ha⟩
    exact ⟨rest, (h t rest (hk rest a ha)).2 ⟨w, hw, rest, ht, rfl⟩, ha⟩

theorem Takes.andThen (h : Takes P reader L) (h' : Takes Q next M)
    (hfollows : ∀ t rest, next t = some rest → P t) :
    Takes Q (fun t => reader t >>= next) (L * M) := by
  intro t rest hrest
  rw [h.bind hfollows, begins_mul]
  exact begins_congr fun u => h' u rest hrest

theorem takes_anyCase (lit : Text) : Takes (fun _ => True) (afterAnyCase? lit) (anyCase lit) := by
  intro t rest _
  rw [afterAnyCase?_eq_some, begins_eq]
  rfl

theorem takes_mark (hc : isBlank c = false) : Takes (fun _ => True) (afterMark? c) (mark c) := by
  intro t rest _
  rw [afterMark?_eq_some hc, begins_eq]
  constructor
  · rintro ⟨bl, hbl, rfl⟩
    exact ⟨bl ++ [c], ⟨bl, hbl, rfl⟩, by simp⟩
  · rintro ⟨_, ⟨bl, hbl, rfl⟩, rfl⟩
    exact ⟨bl, hbl, by simp⟩

theorem takes_blanks : Takes Flush (fun t => some (skipBlanks t)) blanks := by
  intro t rest hrest
  rw [Option.some.injEq, begins_eq]
  constructor
  · rintro rfl
    exact skipBlanks_split t
  · rintro ⟨bl, hbl, rfl⟩
    rw [skipBlanks_append hbl, hrest]

theorem lineLiteral?_iff_begins {text : Text} :
    lineLiteral? t = some (text, rest) ↔ Begins (quotedLine text) (· = rest) t := by
  rw [lineLiteral?_eq_some, begins_eq]
  constructor
  · rintro ⟨q, hq, hne, hline, rfl⟩
    exact ⟨q :: text ++ [q], ⟨q, hq, hne, hline, rfl⟩, by simp⟩
  · rintro ⟨_, ⟨q, hq, hne, hline, rfl⟩, rfl⟩
    exact ⟨q, hq, hne, hline, by simp⟩

theorem flush_cons (hc : isBlank c = false) (t : Text) : Flush (c :: t) := skipBlanks_cons hc t

theorem flush_iff : Flush t ↔ ∀ c, t.head? = some c → isBlank c = false := by
  cases t with
  | nil => simp [Flush, skipBlanks]
  | cons c t =>
    simp only [List.head?_cons, Option.some.injEq, forall_eq']
    exact ⟨head_skipBlanks, (flush_cons · t)⟩

end Readers

end EndpointManifest.Text
