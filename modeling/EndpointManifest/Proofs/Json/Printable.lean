import EndpointManifest.Proofs.Json.RoundTrip
import EndpointManifest.Text.ControlSequence

/-! JSON text holds no control characters but line feeds, so that nothing is taken out of it on its
way to a reader. -/

namespace EndpointManifest

open Text

namespace Text

theorem withoutControls_eq_self {t : Text} (h : ∀ c ∈ t, c.toNat ≠ 0x1B) :
    withoutControls t = t := by
  rw [withoutControls]
  induction t with
  | nil => rfl
  | cons c t ih =>
    obtain ⟨hc, ht⟩ := List.forall_mem_cons.1 h
    simp only [withoutControlsFrom, if_neg hc, ih ht]

end Text

namespace Json

/-- Every control character in the text is a line feed. -/
def Printable (t : Text) : Prop := ∀ c ∈ t, c = '\n' ∨ 32 ≤ c.toNat

instance (t : Text) : Decidable (Printable t) :=
  inferInstanceAs (Decidable (∀ c ∈ t, c = '\n' ∨ 32 ≤ c.toNat))

theorem Printable.append {t u : Text} (ht : Printable t) (hu : Printable u) : Printable (t ++ u) :=
  List.forall_mem_append.2 ⟨ht, hu⟩

theorem Printable.cons {c : Char} {t : Text} (hc : 32 ≤ c.toNat) (ht : Printable t) :
    Printable (c :: t) :=
  List.forall_mem_cons.2 ⟨.inr hc, ht⟩

theorem Printable.withoutControls_eq {t : Text} (h : Printable t) : withoutControls t = t := by
  refine withoutControls_eq_self fun c hc => ?_
  rcases h c hc with rfl | hlarge
  · decide
  · omega

theorem printable_ofNat (n : Nat) : Printable (ofNat n) := by
  intro c hc
  have hdigit := (isAsciiDigit_iff c).1 (isAsciiDigit_of_mem_ofNat hc)
  omega

theorem printable_renderInt (n : Int) : Printable (renderInt n) := by
  rw [renderInt]
  split
  · exact .cons (by decide) (printable_ofNat _)
  · exact printable_ofNat _

theorem printable_hexDigit : ∀ n < 16, 32 ≤ (hexDigit n).toNat := by decide

/-- What has no short form is written with its number. -/
theorem printable_escapeChar (c : Char) : Printable (escapeChar c) := by
  unfold escapeChar
  split
  · decide
  split
  · decide
  split
  · decide
  split
  · decide
  split
  · decide
  split
  · decide
  split
  · decide
  split
  · next hsmall =>
    have hhigh := printable_hexDigit (c.toNat / 16) (by omega)
    have hlow := printable_hexDigit (c.toNat % 16) (by omega)
    exact .cons (by decide) <| .cons (by decide) <| .cons (by decide) <| .cons (by decide) <|
      .cons hhigh <| .cons hlow (by decide)
  · next hlarge => exact .cons (by omega) (by decide)

theorem printable_renderString (s : Text) : Printable (renderString s) := by
  refine .append (.cons (by decide) fun d hd => ?_) (by decide)
  obtain ⟨c, _, hc⟩ := List.mem_flatMap.1 hd
  exact printable_escapeChar c d hc

theorem printable_newLine (level : Nat) : Printable (newLine level) := by
  refine List.forall_mem_cons.2 ⟨.inl rfl, fun c hc => ?_⟩
  obtain rfl := List.eq_of_mem_replicate hc
  decide

theorem printable_renderItems {level : Nat} {items : List Json}
    (h : ∀ i ∈ items, Printable (renderAt level i)) : Printable (renderItems level items) := by
  induction items with
  | nil => exact List.forall_mem_nil _
  | cons item items ih =>
    obtain ⟨hitem, hitems⟩ := List.forall_mem_cons.1 h
    exact ((Printable.cons (by decide) (printable_newLine level)).append hitem).append (ih hitems)

theorem printable_renderMembers {level : Nat} {members : List (Text × Json)}
    (h : ∀ m ∈ members, Printable (renderAt level m.2)) :
    Printable (renderMembers level members) := by
  induction members with
  | nil => exact List.forall_mem_nil _
  | cons member members ih =>
    obtain ⟨hvalue, hmembers⟩ := List.forall_mem_cons.1 h
    have hkey := (Printable.cons (c := ',') (by decide) (printable_newLine level)).append
      (printable_renderString member.1)
    have hcolon : Printable [':', ' '] := by decide
    exact ((hkey.append hcolon).append hvalue).append (ih hmembers)

theorem printable_arr {level : Nat} {item : Json} {items : List Json}
    (h : ∀ i ∈ item :: items, Printable (renderAt (level + 1) i)) :
    Printable (renderAt level (.arr (item :: items))) := by
  obtain ⟨hitem, hitems⟩ := List.forall_mem_cons.1 h
  rw [renderAt_arr_cons]
  have hfront := (Printable.cons (c := '[') (by decide) (printable_newLine (level + 1))).append hitem
  exact ((hfront.append (printable_renderItems hitems)).append (printable_newLine level)).append
    (by decide)

theorem printable_obj {level : Nat} {member : Text × Json} {members : List (Text × Json)}
    (h : ∀ m ∈ member :: members, Printable (renderAt (level + 1) m.2)) :
    Printable (renderAt level (.obj (member :: members))) := by
  obtain ⟨hvalue, hmembers⟩ := List.forall_mem_cons.1 h
  obtain ⟨key, value⟩ := member
  rw [renderAt_obj_cons]
  have hkey := (Printable.cons (c := '\x7b') (by decide) (printable_newLine (level + 1))).append
    (printable_renderString key)
  have hcolon : Printable [':', ' '] := by decide
  have hfirst := (hkey.append hcolon).append hvalue
  exact ((hfirst.append (printable_renderMembers hmembers)).append
    (printable_newLine level)).append (by decide)

theorem printable_renderAt (level : Nat) : ∀ j, Printable (renderAt level j)
  | .null => (by decide : Printable "null".toList)
  | .bool true => (by decide : Printable "true".toList)
  | .bool false => (by decide : Printable "false".toList)
  | .int n => printable_renderInt n
  | .str s => printable_renderString s
  | .arr [] => (by decide : Printable ['[', ']'])
  | .obj [] => (by decide : Printable ['\x7b', '\x7d'])
  | .arr (item :: items) => printable_arr fun i _ => printable_renderAt (level + 1) i
  | .obj (member :: members) => printable_obj fun m _ => printable_renderAt (level + 1) m.2
termination_by j => sizeOf j
decreasing_by
  · have := List.sizeOf_lt_of_mem ‹i ∈ item :: items›
    rw [arr.sizeOf_spec]
    omega
  · have := sizeOf_value_lt ‹m ∈ member :: members›
    rw [obj.sizeOf_spec]
    omega

end Json
end EndpointManifest
