import EndpointManifest.Label
import EndpointManifest.Proofs.Text.Reader
import EndpointManifest.Proofs.Text.Search

/-! The labels of a source: what a declaring call looks like, and which title is the nearest one to
a call. Halving the interval finds the point where the labels pass the offset. -/

namespace EndpointManifest

open Text

namespace Label

theorem titleArgument?_eq_some {t title rest : Text} :
    titleArgument? t = some (title, rest) ↔
      ∃ bl bl' bl'' q, AllBlank bl ∧ AllBlank bl' ∧ AllBlank bl'' ∧ isQuote q = true ∧
        title ≠ [] ∧ (∀ c ∈ title, c ≠ q ∧ c ≠ '\n') ∧
        t = bl ++ '(' :: (bl' ++ (q :: title ++ q :: (bl'' ++ ',' :: rest))) := by
  simp only [titleArgument?, Option.bind_eq_bind, Option.bind_eq_some_iff, Option.pure_def,
    Option.some.injEq, Prod.exists, Prod.mk.injEq, lineLiteral?_eq_some,
    afterMark?_eq_some (c := '(') (by decide), afterMark?_eq_some (c := ',') (by decide)]
  constructor
  · rintro ⟨t', ⟨bl, hbl, rfl⟩, _, _, ⟨q, hq, hne, hline, hlit⟩, _, ⟨bl'', hbl'', rfl⟩, rfl, rfl⟩
    obtain ⟨bl', hbl', hsplit⟩ := skipBlanks_split t'
    exact ⟨bl, bl', bl'', q, hbl, hbl', hbl'', hq, hne, hline, by rw [← hlit, ← hsplit]⟩
  · rintro ⟨bl, bl', bl'', q, hbl, hbl', hbl'', hq, hne, hline, rfl⟩
    refine ⟨_, ⟨bl, hbl, rfl⟩, title, _, ⟨q, hq, hne, hline, ?_⟩, rest, ⟨bl'', hbl'', rfl⟩, rfl, rfl⟩
    rw [skipBlanks_append hbl', List.cons_append, skipBlanks_cons (isBlank_quote hq)]

def testNames : List Text :=
  ["it", "it.only", "it.skip", "test", "test.only", "test.skip"].map String.toList

theorem testPattern_some {before : Option Char} {t title rest : Text}
    (h : testPattern before t = some (title, rest)) :
    wordEdge before t = true ∧ ∃ name ∈ testNames, ∃ t', t = name ++ t' ∧
      titleArgument? t' = some (title, rest) := by
  obtain ⟨hedge, h⟩ := guard_bind_eq_some.1 h
  obtain ⟨t₁, hname, htitle⟩ := Option.bind_eq_some_iff.1 h
  obtain ⟨name, hmem, rfl⟩ := exists_of_afterOneOf? hname
  refine ⟨hedge, ?_⟩
  cases hmod : afterOneOf? [".only".toList, ".skip".toList] t₁ with
  | none =>
    rw [hmod] at htitle
    refine ⟨name, ?_, t₁, rfl, htitle⟩
    clear * - hmem
    revert name
    decide
  | some t₂ =>
    rw [hmod] at htitle
    obtain ⟨modifier, hmem', rfl⟩ := exists_of_afterOneOf? hmod
    refine ⟨name ++ modifier, ?_, t₂, (List.append_assoc ..).symm, htitle⟩
    clear * - hmem hmem'
    revert name modifier
    decide

def groupModifiers : List Text := [".only", ".skip", ".serial", ".parallel"].map String.toList

theorem skipModifiers_split (t : Text) :
    ∃ chain : List Text, (∀ modifier ∈ chain, modifier ∈ groupModifiers) ∧
      t = chain.flatten ++ skipModifiers t := by
  fun_induction skipModifiers t with
  | case1 t h => exact ⟨[], by simp, rfl⟩
  | case2 t rest h hlt ih =>
    obtain ⟨modifier, hmem, rfl⟩ := exists_of_afterOneOf? h
    obtain ⟨chain, hchain, hrest⟩ := ih
    refine ⟨modifier :: chain, ?_, ?_⟩
    · simp only [List.mem_cons, forall_eq_or_imp]
      exact ⟨hmem, hchain⟩
    · rw [List.flatten_cons, List.append_assoc, ← hrest]
  | case3 t rest h hlt => exact ⟨[], by simp, rfl⟩

theorem groupPattern_some {before : Option Char} {t title rest : Text}
    (h : groupPattern before t = some (title, rest)) :
    wordEdge before t = true ∧ ∃ front, (front = [] ∨ front = "test.".toList) ∧ ∃ chain : List Text,
      (∀ modifier ∈ chain, modifier ∈ groupModifiers) ∧ ∃ t',
        t = front ++ ("describe".toList ++ (chain.flatten ++ t')) ∧
          titleArgument? t' = some (title, rest) := by
  obtain ⟨hedge, h⟩ := guard_bind_eq_some.1 h
  obtain ⟨t₁, hname, htitle⟩ := Option.bind_eq_some_iff.1 h
  obtain ⟨chain, hchain, hsplit⟩ := skipModifiers_split t₁
  have hdescribe := after?_eq_some.1 hname
  refine ⟨hedge, ?_⟩
  cases hfront : after? "test.".toList t with
  | none =>
    rw [hfront] at hdescribe
    exact ⟨[], .inl rfl, chain, hchain, _, by rw [← hsplit]; exact hdescribe, htitle⟩
  | some t₂ =>
    rw [hfront] at hdescribe
    refine ⟨_, .inr rfl, chain, hchain, _, ?_, htitle⟩
    rw [← hsplit, ← hdescribe]
    exact after?_eq_some.1 hfront

end Label

namespace LabelIndex

open Label

/-- The interval always holds the point up to which the labels lie at or before the offset. -/
theorem countUpTo_eq {front back : List Label} {offset : Int}
    (hfront : ∀ label ∈ front, label.offset ≤ offset)
    (hback : ∀ label ∈ back, offset < label.offset) (lo hi : Nat) (hlo : lo ≤ front.length)
    (hhi : front.length ≤ hi) (hlen : hi ≤ (front ++ back).length) :
    countUpTo (front ++ back).toArray offset lo hi = front.length := by
  fun_induction countUpTo (front ++ back).toArray offset lo hi with
  | case1 lo hi hlt mid hnone =>
    simp only [List.getElem?_toArray, List.getElem?_eq_none_iff] at hnone
    omega
  | case2 lo hi hlt mid label hlabel hlate ih =>
    rw [List.getElem?_toArray] at hlabel
    refine ih hlo ?_ (by omega)
    by_contra hmid
    rw [List.getElem?_append_left (by omega)] at hlabel
    have := hfront label (List.mem_of_getElem? hlabel)
    omega
  | case3 lo hi hlt mid label hlabel hearly ih =>
    rw [List.getElem?_toArray] at hlabel
    refine ih ?_ hhi hlen
    by_contra hmid
    rw [List.getElem?_append_right (by omega)] at hlabel
    have := hback label (List.mem_of_getElem? hlabel)
    omega
  | case4 lo hi hlt => omega

/-- Where the titles ascend, the nearest one is the last of those at or before the offset. -/
theorem nearest?_eq {index : LabelIndex} {front back : List Label} {offset : Int}
    (htitles : index.titles = front ++ back) (hfront : ∀ label ∈ front, label.offset ≤ offset)
    (hback : ∀ label ∈ back, offset < label.offset) :
    index.nearest? offset = front.getLast?.map (·.title) := by
  have hcount := countUpTo_eq hfront hback 0 (front ++ back).length (by omega) (by simp)
    (Nat.le_refl _)
  rw [nearest?, htitles, hcount]
  cases hn : front.length with
  | zero => simp [List.eq_nil_of_length_eq_zero hn]
  | succ n =>
    show (front ++ back)[n]?.map _ = _
    rw [List.getLast?_eq_getElem?, hn, List.getElem?_append_left (by omega), Nat.add_sub_cancel]

theorem exists_split {labels : List Label} (h : labels.Pairwise (·.offset < ·.offset))
    (offset : Int) : ∃ front back, labels = front ++ back ∧
      (∀ label ∈ front, label.offset ≤ offset) ∧ ∀ label ∈ back, offset < label.offset := by
  induction h with
  | nil => exact ⟨[], [], rfl, by simp, by simp⟩
  | @cons label labels hlabel _ ih =>
    by_cases hle : label.offset ≤ offset
    · obtain ⟨front, back, rfl, hfront, hback⟩ := ih
      exact ⟨label :: front, back, rfl, by simpa [hle] using hfront, hback⟩
    · refine ⟨[], label :: labels, rfl, by simp, ?_⟩
      have hlt : offset < label.offset := by omega
      simp only [List.mem_cons, forall_eq_or_imp]
      exact ⟨hlt, fun l hl => Int.lt_trans hlt (hlabel l hl)⟩

theorem pairwise_ofFound (p : Pattern Text) (t : Text) :
    ((findAll p t).map ofFound).Pairwise (·.offset < ·.offset) := by
  refine List.pairwise_map.2 ((findAll_pairwise p t).imp fun h => ?_)
  exact Int.ofNat_lt.2 h

theorem ofSource_pairwise (t : Text) : (ofSource t).titles.Pairwise (·.offset < ·.offset) :=
  pairwise_ofFound testPattern t

/-- A call has no title iff every test is declared after it. -/
theorem nearest?_eq_none {t : Text} {offset : Int} :
    (ofSource t).nearest? offset = none ↔
      ∀ label ∈ (ofSource t).titles, offset < label.offset := by
  obtain ⟨front, back, htitles, hfront, hback⟩ := exists_split (ofSource_pairwise t) offset
  rw [nearest?_eq htitles hfront hback, htitles, Option.map_eq_none_iff, List.getLast?_eq_none_iff]
  constructor
  · rintro rfl
    exact hback
  · intro h
    refine List.eq_nil_iff_forall_not_mem.2 fun label hlabel => ?_
    have hle := hfront label hlabel
    have hlt := h label (by simp [hlabel])
    omega

theorem title_ne_nil {t : Text} {label : Label} (h : label ∈ (ofSource t).titles) :
    label.title ≠ [] := by
  obtain ⟨f, hf, rfl⟩ := List.mem_map.1 h
  obtain ⟨_, _, _, _, _, hmatch⟩ := match_of_mem_findAll hf
  obtain ⟨_, _, _, _, _, htitle⟩ := testPattern_some hmatch
  obtain ⟨_, _, _, _, _, _, _, _, hne, _⟩ := titleArgument?_eq_some.1 htitle
  exact hne

theorem nearest?_ne_nil {t title : Text} {offset : Int}
    (h : (ofSource t).nearest? offset = some title) : title ≠ [] := by
  simp only [nearest?] at h
  split at h
  · cases h
  · obtain ⟨label, hlabel, rfl⟩ := Option.map_eq_some_iff.1 h
    exact title_ne_nil (List.mem_of_getElem? hlabel)

end LabelIndex
end EndpointManifest
