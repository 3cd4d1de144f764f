import EndpointManifest.File.Path
import EndpointManifest.Proofs.Text.Words

/-! A path in its normal form is read back from its written form. -/

namespace EndpointManifest

open Text

namespace Text

theorem splitOn_append (sep : Char) (u v : Text) :
    splitOn sep (u ++ sep :: v) = splitOn sep u ++ splitOn sep v :=
  splitWhere_append_cons (p := (· = sep)) (decide_eq_true rfl) u v

/-- Parts without the separator are read back from the text that they are joined to. -/
theorem splitOn_join {sep : Char} {parts : List Text} (hne : parts ≠ [])
    (h : ∀ part ∈ parts, sep ∉ part) : splitOn sep (join [sep] parts) = parts := by
  induction parts with
  | nil => exact absurd rfl hne
  | cons part parts ih =>
    have hsplit : splitOn sep part = [part] := by
      refine splitWhere_of_all_not fun c hc => decide_eq_false ?_
      rintro rfl
      exact h part (List.mem_cons_self ..) hc
    cases parts with
    | nil => simpa [join] using hsplit
    | cons next parts =>
      have ih := ih (by simp) fun p hp => h p (List.mem_cons_of_mem _ hp)
      have hcons :
          join [sep] (part :: next :: parts) = part ++ sep :: join [sep] (next :: parts) := by
        simp [join, List.intercalate_cons_cons]
      rw [hcons, splitOn_append, ih, hsplit, List.singleton_append]

end Text

namespace Path

structure IsPart (part : Text) : Prop where
  ne_nil : part ≠ []
  slashless : '/' ∉ part
  ne_dot : part ≠ ['.']

structure IsName (name : Text) : Prop extends IsPart name where
  ne_dots : name ≠ ['.', '.']

instance (name : Text) : Decidable (IsName name) :=
  decidable_of_iff ((name ≠ [] ∧ '/' ∉ name ∧ name ≠ ['.']) ∧ name ≠ ['.', '.'])
    ⟨fun ⟨⟨hne, hslash, hdot⟩, hdots⟩ => ⟨⟨hne, hslash, hdot⟩, hdots⟩,
      fun h => ⟨⟨h.ne_nil, h.slashless, h.ne_dot⟩, h.ne_dots⟩⟩

theorem isPart_of_mem_ofText {t part : Text} (h : part ∈ (ofText t).parts) : IsPart part := by
  obtain ⟨hsplit, hkept⟩ := List.mem_filter.1 h
  simp only [Bool.not_eq_true', Bool.or_eq_false_iff, List.isEmpty_eq_false_iff,
    beq_eq_false_iff_ne] at hkept
  refine ⟨hkept.1, fun hslash => ?_, hkept.2⟩
  simpa using not_of_mem_splitWhere hsplit '/' hslash

theorem isPart_child {p : Path} (h : ∀ part ∈ p.parts, IsPart part) (t : Text) :
    ∀ part ∈ (p.child t).parts, IsPart part := by
  intro part hpart
  rw [child, append] at hpart
  split at hpart
  · exact isPart_of_mem_ofText hpart
  · rcases List.mem_append.1 hpart with hpart | hpart
    · exact h part hpart
    · exact isPart_of_mem_ofText hpart

theorem parts_ofText_slash (t : Text) : (ofText ('/' :: t)).parts = (ofText t).parts := by
  have hsplit : splitOn '/' ('/' :: t) = [] :: splitOn '/' t :=
    splitOn_append '/' [] t
  simp [ofText, hsplit]

theorem parts_ofText_join {parts : List Text} (h : ∀ part ∈ parts, IsPart part) :
    (ofText (join ['/'] parts)).parts = parts := by
  by_cases hnil : parts = []
  · subst hnil
    rfl
  · have hsplit := splitOn_join hnil fun part hpart => (h part hpart).slashless
    simp only [ofText, hsplit, List.filter_eq_self]
    intro part hpart
    simp [(h part hpart).ne_nil, (h part hpart).ne_dot]

theorem join_ne_slash {parts : List Text} (h : ∀ part ∈ parts, IsPart part) (t : Text) :
    join ['/'] parts ≠ '/' :: t := by
  intro heq
  cases parts with
  | nil => cases heq
  | cons part parts =>
    have hpart := h part (List.mem_cons_self ..)
    obtain ⟨c, rest, rfl⟩ := List.exists_cons_of_ne_nil hpart.ne_nil
    have hc : c = '/' := by
      cases parts with
      | nil => simpa [join] using congrArg List.head? heq
      | cons next parts => simpa [join, List.intercalate_cons_cons] using congrArg List.head? heq
    exact hpart.slashless (hc ▸ List.mem_cons_self ..)

theorem anchor_ofText {t : Text} (h : ∀ u, t ≠ '/' :: u) :
    (ofText t).anchor = .relative ∧ (ofText ('/' :: t)).anchor = .root ∧
      (ofText ('/' :: '/' :: t)).anchor = .doubleRoot := by
  cases t with
  | nil => exact ⟨rfl, rfl, rfl⟩
  | cons c t =>
    have hc : c ≠ '/' := fun hc => h t (by rw [hc])
    simp [ofText, hc]

theorem ofText_toText {p : Path} (h : ∀ part ∈ p.parts, IsPart part) : ofText p.toText = p := by
  obtain ⟨anchor, parts⟩ := p
  have hparts : (ofText (join ['/'] parts)).parts = parts := parts_ofText_join h
  obtain ⟨hrelative, hroot, hdouble⟩ := anchor_ofText (join_ne_slash h)
  have heta : ∀ q : Path, q.anchor = anchor → q.parts = parts → q = ⟨anchor, parts⟩ := by
    rintro ⟨_, _⟩ rfl rfl
    rfl
  cases anchor with
  | relative =>
    by_cases hnil : parts = []
    · subst hnil
      decide
    · have htext : toText ⟨.relative, parts⟩ = join ['/'] parts := by simp [toText, hnil]
      rw [htext]
      exact heta _ hrelative hparts
  | root => exact heta _ hroot (by rw [toText, parts_ofText_slash, hparts])
  | doubleRoot =>
    exact heta _ hdouble (by rw [toText, parts_ofText_slash, parts_ofText_slash, hparts])

theorem ofText_toText_ofText (t : Text) : ofText (ofText t).toText = ofText t :=
  ofText_toText fun _ => isPart_of_mem_ofText

/-- The parts between the slashes of a written path; empty ones stand for its anchor. -/
theorem splitOn_toText {p : Path} (h : ∀ part ∈ p.parts, IsPart part) (hne : p.parts ≠ []) :
    ∃ front, splitOn '/' p.toText = front ++ p.parts ∧ ∀ part ∈ front, part = [] := by
  obtain ⟨anchor, parts⟩ := p
  have hsplit : splitOn '/' (join ['/'] parts) = parts :=
    splitOn_join hne fun part hpart => (h part hpart).slashless
  cases anchor with
  | relative =>
    have htext : toText ⟨.relative, parts⟩ = join ['/'] parts := by
      have hisEmpty : parts.isEmpty = false := by simpa using hne
      simp [toText, hisEmpty]
    exact ⟨[], by rw [htext, hsplit]; rfl, by simp⟩
  | root =>
    have htext : splitOn '/' (toText ⟨.root, parts⟩) = [] :: splitOn '/' (join ['/'] parts) :=
      splitOn_append '/' [] _
    exact ⟨[[]], by rw [htext, hsplit]; rfl, by simp⟩
  | doubleRoot =>
    have htext : splitOn '/' (toText ⟨.doubleRoot, parts⟩) =
        [] :: splitOn '/' ('/' :: join ['/'] parts) := splitOn_append '/' [] _
    have htext' : splitOn '/' ('/' :: join ['/'] parts) = [] :: splitOn '/' (join ['/'] parts) :=
      splitOn_append '/' [] _
    exact ⟨[[], []], by rw [htext, htext', hsplit]; rfl, by simp⟩

/-- As it is written, a path in normal form is followed in the same way. -/
theorem verbatim_toText {p : Path} (h : ∀ part ∈ p.parts, IsPart part) (hne : p.parts ≠ []) :
    verbatim p.toText = p := by
  obtain ⟨front, hsplit, hfront⟩ := splitOn_toText h hne
  have hkept : (splitOn '/' p.toText).filter (!·.isEmpty) = p.parts := by
    rw [hsplit, List.filter_append, List.filter_eq_nil_iff.2, List.nil_append,
      List.filter_eq_self.2]
    · intro part hpart
      simpa using (h part hpart).ne_nil
    · intro part hpart
      simp [hfront part hpart]
  have hend : endsWith ['/'] p.toText = false := by
    refine Bool.eq_false_iff.2 fun hslash => ?_
    obtain ⟨rest, hrest⟩ := List.isPrefixOf_iff_prefix.1 hslash
    have htext : p.toText = rest.reverse ++ '/' :: [] := by
      rw [← List.reverse_reverse p.toText, ← hrest]
      simp
    -- a slash at the end would leave an empty part behind it
    rw [htext, splitOn_append] at hsplit
    have hlast := congrArg List.getLast? hsplit
    obtain ⟨last, hlast'⟩ := Option.isSome_iff_exists.1 (List.getLast?_isSome.2 hne)
    rw [List.getLast?_append, List.getLast?_append, hlast'] at hlast
    refine (h last (List.mem_of_getLast? hlast')).ne_nil ?_
    simpa [splitOn, splitWhere] using hlast.symm
  have hself := ofText_toText h
  rw [verbatim, hself, hkept, hend]
  simp

end Path
end EndpointManifest
