import EndpointManifest.Proofs.Assertion
import EndpointManifest.Proofs.Options.Header
import EndpointManifest.Proofs.Text.Words

/-! What can be recovered at all, from any options text and any window: a cleaned body, a trimmed
content type without quotes, a status in range, a substring on one line. -/

namespace EndpointManifest

open Text

namespace Options

/-- Cleaning writes the words of a text with single spaces between them. -/
theorem clean?_eq (t : Text) :
    clean? t = if words t = [] then none else some (join [' '] (words t)) := by
  have hcollapse : collapseBlanks (trim t) = join [' '] (words t) := by
    rw [collapseBlanks_of_trimmed _ (trimmed_trim t), words_trim]
  rw [clean?, hcollapse]
  by_cases hw : words t = []
  · simp [hw, join]
  · have hjoin := (singleSpaced_join hw fun w h => of_mem_words h).ne_nil
    rw [if_neg hw]
    split
    · next h => exact absurd h hjoin
    · rfl

theorem singleSpaced_of_clean? {t b : Text} (h : clean? t = some b) : SingleSpaced b := by
  rw [clean?_eq] at h
  split at h
  · cases h
  · next hw =>
    obtain rfl := Option.some.inj h
    exact singleSpaced_join hw fun w h => of_mem_words h

def written? (value : Text) : Option Text :=
  match value with
  | [] => none
  | c :: _ =>
    if c = '{' ∨ c = '[' then (Delimiter.blockEnd? value).map fun n => value.take (n + 1)
    else match Delimiter.literalEnd? value with
      | some n => some (value.take (n + 1))
      | none =>
        match calleeLength? value with
        | some n => (Delimiter.blockEnd? (value.drop n)).map fun m => value.take (n + m + 1)
        | none => (run? (fun c => c != ',' && c != '\n' && c != '}') value).map (·.1)

/-- Whatever the shape of a value, what is taken of it is cleaned. -/
theorem value?_eq_clean (value : Text) : value? value = (written? value).bind clean? := by
  cases value with
  | nil => rfl
  | cons c rest =>
    simp only [value?, written?]
    split_ifs
    · cases Delimiter.blockEnd? (c :: rest) <;> rfl
    · cases Delimiter.literalEnd? (c :: rest) with
      | some n => rfl
      | none =>
        dsimp only [expression?]
        cases calleeLength? (c :: rest) with
        | some n =>
          dsimp only
          cases Delimiter.blockEnd? ((c :: rest).drop n) <;> rfl
        | none =>
          dsimp only
          cases run? (fun c => c != ',' && c != '\n' && c != '}') (c :: rest) <;> rfl

theorem singleSpaced_body {options b : Text} (h : (fields options).body = some b) :
    SingleSpaced b := by
  obtain ⟨start, _, h⟩ := Option.bind_eq_some_iff.1 h
  rw [value?_eq_clean] at h
  obtain ⟨s, _, hs⟩ := Option.bind_eq_some_iff.1 h
  exact singleSpaced_of_clean? hs

theorem contentType_unquoted {options v : Text} (h : (fields options).contentType = some v) :
    Trimmed v ∧ ∀ c ∈ v, isQuote c = false := by
  obtain ⟨f, hf, rfl⟩ := Option.map_eq_some_iff.1 h
  obtain ⟨_, _, _, _, _, _, hmatch, _⟩ := find?_eq_some.1 hf
  obtain ⟨_, _, _, _, _, _, _, _, _, _, _, _, _, _, hall, _⟩ := contentTypePattern_eq_some.1 hmatch
  exact ⟨trimmed_trim _, fun c hc => hall c (trim_subset hc)⟩

theorem fields_nil : fields [] = {} := by
  have hscan : Key.scan [] = [] := by simp [Key.scan, Key.scanFrom]
  have hheaders : headersBlock [] = [] := by simp [headersBlock, valueStart?, hscan]
  have hbody : body? [] = none := by simp [body?, valueStart?, hscan]
  simp [fields, hheaders, hbody, find?, findAll, findAllFrom]

end Options

namespace Asserted

open Assertion

theorem status_in_range {window : Text} {n : Nat} (h : (ofWindow window).status = some n) :
    100 ≤ n ∧ n ≤ 599 := by
  have hfirst {p : Pattern Nat} {f : Found Nat} (hf : firstInRange? p window = some f) :
      100 ≤ f.value ∧ f.value ≤ 599 := by
    simpa using List.find?_some hf
  obtain ⟨f, hf, rfl⟩ := Option.map_eq_some_iff.1 h
  revert hf
  cases hs : firstInRange? statusPattern window <;> cases ho : firstInRange? okPattern window <;>
    simp only [earlier]
  · simp
  · rintro ⟨rfl⟩; exact hfirst ho
  · rintro ⟨rfl⟩; exact hfirst hs
  · split
    · rintro ⟨rfl⟩; exact hfirst ho
    · rintro ⟨rfl⟩; exact hfirst hs

theorem containMatcher?_some {t s rest : Text} (h : containMatcher? t = some (s, rest)) :
    s ≠ [] ∧ '\n' ∉ s := by
  obtain ⟨t₁, _, h⟩ := Option.bind_eq_some_iff.1 h
  obtain ⟨t₂, _, h⟩ := Option.bind_eq_some_iff.1 h
  obtain ⟨⟨run, t₃⟩, hlit, h⟩ := Option.bind_eq_some_iff.1 h
  obtain ⟨t₄, _, h⟩ := Option.bind_eq_some_iff.1 h
  obtain ⟨rfl, rfl⟩ : run = s ∧ t₄ = rest := by simpa using h
  obtain ⟨q, _, hne, hline, _⟩ := lineLiteral?_eq_some.1 hlit
  exact ⟨hne, fun hmem => (hline _ hmem).2 rfl⟩

theorem substring_on_one_line {window s : Text} (h : (ofWindow window).substring = some s) :
    s ≠ [] ∧ '\n' ∉ s := by
  obtain ⟨f, hf, rfl⟩ := Option.map_eq_some_iff.1 h
  obtain ⟨_, _, _, _, _, _, hmatch, _⟩ := find?_eq_some.1 hf
  obtain ⟨_, _, hcontain⟩ := textPattern_some hmatch
  exact containMatcher?_some hcontain

end Asserted
end EndpointManifest
