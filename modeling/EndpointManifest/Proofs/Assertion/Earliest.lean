import EndpointManifest.Proofs.Assertion.Apart

/-! What a window asserts is what is asserted first in it. A search takes the first match of its own
pattern and goes on behind it; that it misses no assertion rests on the matches being apart, and
that the two patterns of a status never tie, on their subjects. -/

namespace EndpointManifest

open Text

/-- Asserted at the position, and everything else that is asserted begins later. -/
def First {α : Type} (asserts : Nat → α → Prop) (start : Nat) (a : α) : Prop :=
  asserts start a ∧ ∀ start' a', asserts start' a' → start' = start ∧ a' = a ∨ start < start'

/-- The first of what is asserted, or nothing where nothing is. -/
def Earliest {α : Type} (asserts : Nat → α → Prop) : Option α → Prop
  | some a => ∃ start, First asserts start a
  | none => ∀ start a, ¬ asserts start a

theorem Earliest.congr {α : Type} {asserts asserts' : Nat → α → Prop} {o : Option α}
    (h : ∀ start a, asserts start a ↔ asserts' start a) (ho : Earliest asserts o) :
    Earliest asserts' o := by
  rwa [show asserts' = asserts from funext₂ fun start a => propext (h start a).symm]

namespace Text

def Found.Earliest {α : Type} (asserts : Nat → α → Prop) : Option (Found α) → Prop
  | some f => First asserts f.start f.value
  | none => ∀ start a, ¬ asserts start a

section Search

variable {α : Type} {p : Pattern α} {stands : α → Text → Prop} {t : Text} {f : Found α}

theorem Found.Earliest.value {asserts : Nat → α → Prop} {o : Option (Found α)}
    (h : Found.Earliest asserts o) : EndpointManifest.Earliest asserts (o.map (·.value)) := by
  cases o with
  | none => exact h
  | some f => exact ⟨f.start, h⟩

theorem mem_findAll_iff_stands (hp : Apart p)
    (hstands : ∀ b t a, (∃ rest, p b t = some (a, rest)) ↔ stands a t)
    (hnil : ∀ a, ¬ stands a []) : f ∈ findAll p t ↔ stands f.value (t.drop f.start) := by
  rw [mem_findAll_iff hp]
  constructor
  · rintro ⟨u, v, after, _, rfl, hs, hmatch⟩
    rw [hs, List.drop_left]
    exact (hstands _ v f.value).1 ⟨after, hmatch⟩
  · intro h
    have hne : t.drop f.start ≠ [] := fun hnil' => hnil f.value (hnil' ▸ h)
    have hlen : f.start < t.length := by simpa using hne
    obtain ⟨after, hmatch⟩ := (hstands (endOf none (t.take f.start)) _ f.value).2 h
    refine ⟨t.take f.start, t.drop f.start, after, hne, (List.take_append_drop ..).symm, ?_, hmatch⟩
    rw [List.length_take]
    omega

theorem earliest_find? (hp : Apart p)
    (hstands : ∀ b t a, (∃ rest, p b t = some (a, rest)) ↔ stands a t)
    (hnil : ∀ a, ¬ stands a []) (q : α → Bool) :
    Found.Earliest (fun start a => q a = true ∧ stands a (t.drop start))
      ((findAll p t).find? fun f => q f.value) := by
  have hmem (start : Nat) (a : α) (h : stands a (t.drop start)) : ⟨start, a⟩ ∈ findAll p t :=
    (mem_findAll_iff_stands hp hstands hnil).2 h
  cases hfind : (findAll p t).find? fun f => q f.value with
  | none =>
    rintro start a ⟨hq, h⟩
    exact List.find?_eq_none.1 hfind _ (hmem start a h) hq
  | some f =>
    refine ⟨⟨List.find?_some (p := fun f : Found α => q f.value) hfind,
      (mem_findAll_iff_stands hp hstands hnil).1 (List.mem_of_find?_eq_some hfind)⟩, ?_⟩
    rintro start a ⟨hq, h⟩
    rcases find?_eq_some_of_pairwise (findAll_pairwise p t) hfind _ (hmem start a h) hq with h | h
    · exact .inl ⟨congrArg Found.start h, congrArg Found.value h⟩
    · exact .inr h

theorem not_stands_of_quiet (hstands : ∀ b t a, (∃ rest, p b t = some (a, rest)) ↔ stands a t)
    {u v : Text} (h : Quiet p none u v) {start : Nat} (hstart : start < u.length) (a : α) :
    ¬ stands a ((u ++ v).drop start) := by
  intro hstand
  rw [List.drop_append_of_le_length (by omega), List.drop_eq_getElem_cons hstart] at hstand
  obtain ⟨rest, hmatch⟩ := (hstands (endOf none (u.take start)) _ a).2 hstand
  have hnone := h (u.take start) u[start] (u.drop (start + 1)) (by simp)
  rw [hmatch] at hnone
  cases hnone

/-- The leftmost match is the first of all, also where matches overlap. -/
theorem earliest_leftmost (hstands : ∀ b t a, (∃ rest, p b t = some (a, rest)) ↔ stands a t)
    (hnil : ∀ a, ¬ stands a []) :
    Found.Earliest (fun start a => stands a (t.drop start)) (find? p t) := by
  cases hfind : find? p t with
  | none =>
    intro start a h
    have hne : t.drop start ≠ [] := fun hnil' => hnil a (hnil' ▸ h)
    rw [← List.append_nil t] at h
    exact not_stands_of_quiet hstands (find?_eq_none.1 hfind) (by simpa using hne) a h
  | some f =>
    obtain ⟨u, v, after, hv, rfl, hs, hmatch, hquiet⟩ := find?_eq_some.1 hfind
    have hbehind : (u ++ v).drop f.start = v := by rw [hs, List.drop_left]
    refine ⟨(hstands _ _ _).1 ⟨after, by rw [hbehind]; exact hmatch⟩, fun start a h => ?_⟩
    rcases Nat.lt_trichotomy start f.start with hlt | rfl | hlt
    · exact absurd h (not_stands_of_quiet hstands hquiet (hs ▸ hlt) a)
    · obtain ⟨rest, hother⟩ := (hstands (endOf none u) _ a).2 h
      rw [hbehind, hmatch] at hother
      exact .inl ⟨rfl, (congrArg Prod.fst (Option.some.inj hother)).symm⟩
    · exact .inr hlt

end Search

end Text

namespace Asserted

open Assertion

/-- At the position a status is asserted, as a number in the range of a status or as success. -/
def AssertsStatus (window : Text) (start code : Nat) : Prop :=
  100 ≤ code ∧ code ≤ 599 ∧ ((∃ w ∈ statusAssertion code, w <+: window.drop start) ∨
    code = okStatus ∧ ∃ w ∈ okAssertion, w <+: window.drop start)

def AssertsText (window : Text) (start : Nat) (text : Text) : Prop :=
  ∃ w ∈ textAssertion text, w <+: window.drop start

/-- Of two firsts that never tie, the one that starts earlier is the first of all. -/
theorem earliest_earlier {asserts asserts' : Nat → Nat → Prop} {a b : Option (Found Nat)}
    (ha : Found.Earliest asserts a) (hb : Found.Earliest asserts' b)
    (hapart : ∀ start x y, asserts start x → ¬ asserts' start y) :
    Found.Earliest (fun start x => asserts start x ∨ asserts' start x) (earlier a b) := by
  cases a with
  | none =>
    cases b with
    | none =>
      rintro start x (h | h)
      · exact ha start x h
      · exact hb start x h
    | some g =>
      refine ⟨.inr hb.1, ?_⟩
      rintro start x (h | h)
      · exact absurd h (ha start x)
      · exact hb.2 start x h
  | some f =>
    cases b with
    | none =>
      refine ⟨.inl ha.1, ?_⟩
      rintro start x (h | h)
      · exact ha.2 start x h
      · exact absurd h (hb start x)
    | some g =>
      simp only [earlier]
      split
      · next hlt =>
        refine ⟨.inr hb.1, ?_⟩
        rintro start x (h | h)
        · rcases ha.2 start x h with ⟨rfl, _⟩ | hlater
          · exact .inr hlt
          · exact .inr (by omega)
        · exact hb.2 start x h
      · next hge =>
        have hne : f.start ≠ g.start := fun heq => hapart f.start _ _ ha.1 (heq ▸ hb.1)
        refine ⟨.inl ha.1, ?_⟩
        rintro start x (h | h)
        · exact ha.2 start x h
        · rcases hb.2 start x h with ⟨rfl, _⟩ | hlater
          · exact .inr (by omega)
          · exact .inr (by omega)

theorem not_prefix_nil {L : Language Char} (h : Closes L) : ¬ ∃ w ∈ L, w <+: [] := by
  rintro ⟨w, hw, hprefix⟩
  obtain ⟨x, rfl⟩ := h w hw
  simp at hprefix

theorem earliest_status (window : Text) :
    Earliest (AssertsStatus window) (ofWindow window).status := by
  have hnumber := earliest_find? (t := window) apart_statusPattern statusPattern_matches
    (fun code => not_prefix_nil (closes_statusMatcher code).mul)
    fun code => 100 ≤ code && code ≤ 599
  have hok := earliest_find? (t := window) apart_okPattern okPattern_matches
    (fun code h => not_prefix_nil closes_truthMatcher.mul h.2)
    fun code => 100 ≤ code && code ≤ 599
  have hfirst := earliest_earlier hnumber hok ?_
  · refine Earliest.congr (fun start code => ?_) hfirst.value
    rw [AssertsStatus, ← and_or_left, Bool.and_eq_true, decide_eq_true_eq, decide_eq_true_eq,
      and_assoc]
  · rintro start code code' ⟨_, hnumber⟩ ⟨_, _, hok⟩
    exact not_both_asserted hnumber hok

theorem earliest_substring (window : Text) :
    Earliest (AssertsText window) (ofWindow window).substring := by
  have hfirst := earliest_leftmost (t := window) textPattern_matches
    fun text => not_prefix_nil (closes_containMatcher text).mul
  exact hfirst.value

/-- What a window asserts is the status asserted first of all in it and the text asserted first. -/
theorem ofWindow_earliest (window : Text) :
    Earliest (AssertsStatus window) (ofWindow window).status ∧
      Earliest (AssertsText window) (ofWindow window).substring :=
  ⟨earliest_status window, earliest_substring window⟩

/-- A number that no status has hides nothing. -/
example : (ofWindow ("expect(r.status()).toBe(999); expect(r.ok()).toBeTruthy();".toList ++
    "expect(r.status()).toBe(404)".toList)).status = some 200 := by
  decide +kernel

end Asserted
end EndpointManifest
