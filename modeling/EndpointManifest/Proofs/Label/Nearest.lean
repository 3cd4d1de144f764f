import EndpointManifest.Proofs.Label

/-! What an index of labels says of its source. Each label is declared at its offset, tests and
groups are told apart there, and of the titles at or before an offset the last one counts. -/

namespace EndpointManifest

open Text

namespace Label

def IsGroupName (name : Text) : Prop :=
  ∃ front, (front = [] ∨ front = "test.".toList) ∧ ∃ chain : List Text,
    (∀ modifier ∈ chain, modifier ∈ groupModifiers) ∧
      name = front ++ ("describe".toList ++ chain.flatten)

/-- At the label's offset the source has a name and, as the first argument behind it, the title on
one line between two quotes of a kind that the title lacks. -/
def Declared (IsName : Text → Prop) (t : Text) (label : Label) : Prop :=
  ∃ u name bl bl' bl'' q rest, label.offset = u.length ∧ IsName name ∧ AllBlank bl ∧
    AllBlank bl' ∧ AllBlank bl'' ∧ isQuote q = true ∧ label.title ≠ [] ∧ q ∉ label.title ∧
    '\n' ∉ label.title ∧
    t = u ++ (name ++ (bl ++ '(' :: (bl' ++ (q :: label.title ++ q :: (bl'' ++ ',' :: rest)))))

theorem declared_of_titleArgument {IsName : Text → Prop} {u name t' rest : Text} {label : Label}
    (hoffset : label.offset = u.length) (hname : IsName name)
    (h : titleArgument? t' = some (label.title, rest)) :
    Declared IsName (u ++ (name ++ t')) label := by
  obtain ⟨bl, bl', bl'', q, hbl, hbl', hbl'', hq, hne, hline, rfl⟩ := titleArgument?_eq_some.1 h
  refine ⟨u, name, bl, bl', bl'', q, rest, hoffset, hname, hbl, hbl', hbl'', hq, hne, ?_, ?_, rfl⟩
  · exact fun hmem => (hline q hmem).1 rfl
  · exact fun hmem => (hline '\n' hmem).2 rfl

theorem testPattern_of_isGroupName {before : Option Char} {name : Text} (h : IsGroupName name)
    (rest : Text) : testPattern before (name ++ rest) = none := by
  refine Option.eq_none_iff_forall_ne_some.2 ?_
  rintro ⟨title, after⟩ hmatch
  obtain ⟨_, testName, hmem, t', hsplit, htitle⟩ := testPattern_some hmatch
  obtain ⟨bl, _, _, _, hbl, _, _, _, _, _, rfl⟩ := titleArgument?_eq_some.1 htitle
  obtain ⟨front, hfront, chain, _, rfl⟩ := h
  -- behind the name of a test stands a blank or the parenthesis, never a point
  have hpoint : ∀ y, (bl ++ '(' :: y).head? ≠ some '.' := by
    intro y
    cases bl with
    | nil => simp
    | cons c bl =>
      rintro ⟨rfl⟩
      exact absurd (hbl '.' (by simp)) (by decide)
  simp only [testNames, List.map_cons, List.map_nil, List.mem_cons, List.not_mem_nil,
    or_false] at hmem
  rcases hfront with rfl | rfl <;> rcases hmem with rfl | rfl | rfl | rfl | rfl | rfl <;>
    simp at hsplit
  exact hpoint _ (by rw [← hsplit]; rfl)

end Label

namespace LabelIndex

open Label

variable {t : Text} {label : Label}

theorem declared_title (h : label ∈ (ofSource t).titles) : Declared (· ∈ testNames) t label := by
  obtain ⟨f, hf, rfl⟩ := List.mem_map.1 h
  obtain ⟨u, v, _, rfl, hstart, hmatch⟩ := match_of_mem_findAll hf
  obtain ⟨_, name, hname, _, rfl, htitle⟩ := testPattern_some hmatch
  exact declared_of_titleArgument (congrArg Int.ofNat hstart) hname htitle

theorem declared_group (h : label ∈ (ofSource t).groups) : Declared IsGroupName t label := by
  obtain ⟨f, hf, rfl⟩ := List.mem_map.1 h
  obtain ⟨u, v, _, rfl, hstart, hmatch⟩ := match_of_mem_findAll hf
  obtain ⟨_, front, hfront, chain, hchain, t', rfl, htitle⟩ := groupPattern_some hmatch
  rw [← List.append_assoc "describe".toList, ← List.append_assoc front]
  exact declared_of_titleArgument (congrArg Int.ofNat hstart) ⟨front, hfront, chain, hchain, rfl⟩
    htitle

theorem offset_ne_of_isGroupName {u name rest : Text} (hname : IsGroupName name)
    (h : label ∈ (ofSource (u ++ (name ++ rest))).titles) : label.offset ≠ u.length := by
  intro hoffset
  obtain ⟨f, hf, rfl⟩ := List.mem_map.1 h
  obtain ⟨u', v, _, hsplit, hstart, hmatch⟩ := match_of_mem_findAll hf
  have hlength : u.length = u'.length := by
    rw [← hstart]
    exact (Int.ofNat.inj hoffset).symm
  obtain ⟨rfl, rfl⟩ := List.append_inj hsplit hlength
  rw [testPattern_of_isGroupName hname] at hmatch
  cases hmatch

/-- Where the titles ascend, the nearest one has the greatest offset of those at or before. -/
theorem nearest?_eq_some {index : LabelIndex} {offset : Int} {title : Text}
    (h : index.titles.Pairwise (·.offset < ·.offset)) :
    index.nearest? offset = some title ↔ ∃ label ∈ index.titles, label.title = title ∧
      label.offset ≤ offset ∧
        ∀ other ∈ index.titles, other.offset ≤ offset → other.offset ≤ label.offset := by
  obtain ⟨front, back, htitles, hfront, hback⟩ := exists_split h offset
  have hmem : ∀ other ∈ index.titles, other.offset ≤ offset → other ∈ front := by
    intro other hother hle
    rw [htitles] at hother
    refine (List.mem_append.1 hother).resolve_right fun hlater => ?_
    have := hback other hlater
    omega
  rw [nearest?_eq htitles hfront hback]
  rw [htitles] at h
  obtain rfl | ⟨init, last, rfl⟩ := List.eq_nil_or_concat' front
  · simp only [List.getLast?_nil, Option.map_none, reduceCtorEq, false_iff]
    rintro ⟨label, hlabel, _, hle, _⟩
    cases hmem label hlabel hle
  · have hbefore : ∀ label ∈ init, label.offset < last.offset := by
      intro label hlabel
      exact (List.pairwise_append.1 (List.pairwise_append.1 h).1).2.2 label hlabel last (by simp)
    have hupto : ∀ other ∈ index.titles, other.offset ≤ offset → other.offset ≤ last.offset := by
      intro other hother hle
      rcases List.mem_append.1 (hmem other hother hle) with hinit | hlast
      · exact Int.le_of_lt (hbefore other hinit)
      · exact Int.le_of_eq (by rw [List.mem_singleton.1 hlast])
    have hlast : last ∈ index.titles ∧ last.offset ≤ offset :=
      ⟨by simp [htitles], hfront last (by simp)⟩
    rw [List.getLast?_concat, Option.map_some, Option.some.injEq]
    constructor
    · rintro rfl
      exact ⟨last, hlast.1, rfl, hlast.2, hupto⟩
    · rintro ⟨label, hlabel, rfl, hle, hmax⟩
      have hge := hmax last hlast.1 hlast.2
      rcases List.mem_append.1 (hmem label hlabel hle) with hinit | hlabel
      · have := hbefore label hinit
        omega
      · rw [List.mem_singleton.1 hlabel]

theorem outermost?_of_pairwise {index : LabelIndex}
    (h : index.groups.Pairwise (·.offset < ·.offset)) :
    index.groups = [] ∧ index.outermost? = none ∨ ∃ first ∈ index.groups,
      index.outermost? = some first.title ∧
        ∀ other ∈ index.groups, other = first ∨ first.offset < other.offset := by
  unfold outermost?
  cases hgroups : index.groups with
  | nil => exact .inl ⟨rfl, rfl⟩
  | cons first others =>
    rw [hgroups] at h
    refine .inr ⟨first, by simp, rfl, List.forall_mem_cons.2 ⟨.inl rfl, fun other hother => ?_⟩⟩
    exact .inr (List.rel_of_pairwise_cons h hother)

/-- The titles ascend, and the nearest one to an offset is the one with the greatest start at or
before it. A marker of a group has no title at its own offset; every title and every group is
declared where it is recorded; the outermost group is the first of all. -/
theorem ofSource_nearest (t : Text) :
    let index := ofSource t
    index.titles.Pairwise (·.offset < ·.offset) ∧
      (∀ offset : Int,
        (∀ title, index.nearest? offset = some title ↔ ∃ label ∈ index.titles,
          label.title = title ∧ label.offset ≤ offset ∧
            ∀ other ∈ index.titles, other.offset ≤ offset → other.offset ≤ label.offset) ∧
        (index.nearest? offset = none ↔ ∀ label ∈ index.titles, offset < label.offset)) ∧
      (∀ u name rest, t = u ++ (name ++ rest) → IsGroupName name →
        ∀ label ∈ index.titles, label.offset ≠ u.length) ∧
      (∀ label ∈ index.titles, Declared (· ∈ testNames) t label) ∧
      (∀ label ∈ index.groups, Declared IsGroupName t label) ∧
      (index.groups = [] ∧ index.outermost? = none ∨ ∃ first ∈ index.groups,
        index.outermost? = some first.title ∧
          ∀ other ∈ index.groups, other = first ∨ first.offset < other.offset) := by
  intro index
  refine ⟨ofSource_pairwise t, fun offset => ⟨fun title => ?_, nearest?_eq_none⟩, ?_,
    fun _ => declared_title, fun _ => declared_group, ?_⟩
  · exact nearest?_eq_some (ofSource_pairwise t)
  · rintro u name rest rfl hname label
    exact offset_ne_of_isGroupName hname
  · exact outermost?_of_pairwise (pairwise_ofFound groupPattern t)

/-- A group marker with modifiers between two tests. -/
example :
    let index := ofSource "it('a', 0); test.describe.only.serial('g', 0); test.skip(\"b\", 0)".toList
    index.titles.map (·.offset) = [0, 47] ∧ index.groups.map (·.offset) = [12] ∧
      index.nearest? 46 = some ['a'] ∧ index.nearest? (-1) = none := by
  decide +kernel

end LabelIndex
end EndpointManifest
