import EndpointManifest.Json.Printer

/-! Which values are printed: those that have room for their lists and objects and whose numbers are
not too long. -/

namespace EndpointManifest.Json

open Text

/-- A value whose lists and objects take up no more levels, and whose numbers no more digits, than
there are. -/
inductive Fits : (levels : Nat) → Json → Prop
  | null {levels : Nat} : Fits levels .null
  | bool {levels : Nat} (b : Bool) : Fits levels (.bool b)
  | int {levels : Nat} {n : Int} (h : (ofNat n.natAbs).length ≤ maxDigits) : Fits levels (.int n)
  | str {levels : Nat} (s : Text) : Fits levels (.str s)
  | arr {levels : Nat} {items : List Json} (h : ∀ item ∈ items, Fits levels item) :
      Fits (levels + 1) (.arr items)
  | obj {levels : Nat} {members : List (Text × Json)}
      (h : ∀ member ∈ members, Fits levels member.2) : Fits (levels + 1) (.obj members)

theorem Fits.mono {levels levels' : Nat} {j : Json} (h : Fits levels j) (hle : levels ≤ levels') :
    Fits levels' j := by
  induction h generalizing levels' with
  | null => exact .null
  | bool b => exact .bool b
  | int h => exact .int h
  | str s => exact .str s
  | arr _ ih =>
    obtain ⟨rest, rfl⟩ : ∃ n, levels' = n + 1 := ⟨levels' - 1, by omega⟩
    exact .arr fun item hitem => ih item hitem (by omega)
  | obj _ ih =>
    obtain ⟨rest, rfl⟩ : ∃ n, levels' = n + 1 := ⟨levels' - 1, by omega⟩
    exact .obj fun member hmember => ih member hmember (by omega)

theorem itemsRefusal?_eq_none {levels : Nat} {items : List Json} :
    itemsRefusal? levels items = none ↔ ∀ item ∈ items, refusal? levels item = none := by
  induction items with
  | nil => simp [itemsRefusal?]
  | cons item items ih => rw [itemsRefusal?, Option.or_eq_none_iff, List.forall_mem_cons, ih]

theorem membersRefusal?_eq_none {levels : Nat} {members : List (Text × Json)} :
    membersRefusal? levels members = none ↔
      ∀ member ∈ members, refusal? levels member.2 = none := by
  induction members with
  | nil => simp [membersRefusal?]
  | cons member members ih =>
    obtain ⟨key, value⟩ := member
    rw [membersRefusal?, Option.or_eq_none_iff, List.forall_mem_cons, ih]

theorem Fits.refusal?_eq_none {levels : Nat} {j : Json} (h : Fits levels j) :
    refusal? levels j = none := by
  induction h with
  | null | bool | str => rfl
  | int h => exact if_neg (Nat.not_lt.2 h)
  | arr _ ih => exact itemsRefusal?_eq_none.2 ih
  | obj _ ih => exact membersRefusal?_eq_none.2 ih

theorem sizeOf_value_lt {member : Text × Json} {members : List (Text × Json)}
    (h : member ∈ members) : sizeOf member.2 < sizeOf members := by
  have hmember := List.sizeOf_lt_of_mem h
  obtain ⟨key, value⟩ := member
  rw [Prod.mk.sizeOf_spec] at hmember
  dsimp only
  omega

theorem fits_of_refusal? (levels : Nat) : ∀ j, refusal? levels j = none → Fits levels j
  | .null, _ => .null
  | .bool b, _ => .bool b
  | .str s, _ => .str s
  | .int n, h => by
    rw [refusal?] at h
    split at h
    · cases h
    · next hdigits => exact .int (Nat.not_lt.1 hdigits)
  | .arr items, h => by
    cases levels with
    | zero => cases h
    | succ levels =>
      have hitems := itemsRefusal?_eq_none.1 h
      exact .arr fun item hitem => fits_of_refusal? levels item (hitems item hitem)
  | .obj members, h => by
    cases levels with
    | zero => cases h
    | succ levels =>
      have hmembers := membersRefusal?_eq_none.1 h
      exact .obj fun member hmember => fits_of_refusal? levels member.2 (hmembers member hmember)
termination_by j => sizeOf j
decreasing_by
  · have := List.sizeOf_lt_of_mem hitem
    rw [arr.sizeOf_spec]
    omega
  · have := sizeOf_value_lt hmember
    rw [obj.sizeOf_spec]
    omega

theorem Fits.render_eq {levels : Nat} {j : Json} (h : Fits levels j) :
    render levels j = .ok (renderAt 0 j) := by
  rw [render, h.refusal?_eq_none]

theorem render_eq_ok {levels : Nat} {j : Json} {t : Text} :
    render levels j = .ok t ↔ Fits levels j ∧ t = renderAt 0 j := by
  constructor
  · intro h
    unfold render at h
    split at h
    · cases h
    · next hnone => exact ⟨fits_of_refusal? levels j hnone, (Except.ok.inj h).symm⟩
  · rintro ⟨hfits, rfl⟩
    exact hfits.render_eq

end EndpointManifest.Json
