import EndpointManifest.Proofs.Except
import EndpointManifest.Proofs.File.Disk

/-! Many paths lead to one file. What is read under them is the same, and so is their last part, for
it is the name of the file. -/

namespace EndpointManifest.Disk

open EndpointManifest.Tree

/-- The last part of a path leads up, or to an entry of a directory. -/
theorem follow_last {tree : Tree} {reached location : List Text} {last : Text}
    (hlast : Path.IsPart last) (h : follow tree reached [last] = .ok location) :
    tree.DirAt reached ∧ (location = reached.dropLast ∨ location = reached ++ [last]) := by
  rw [follow] at h
  split at h
  · next entries hget =>
    refine ⟨⟨entries, hget⟩, ?_⟩
    rw [if_neg hlast.ne_dot] at h
    split at h
    · exact .inl (Except.ok.inj h).symm
    · split at h
      · cases h
      · split at h
        · exact .inr (Except.ok.inj h).symm
        · cases h
  · cases h
  · cases h

/-- However a path leads to a file, its last part is the name of the file. -/
theorem name_of_locate {disk : Disk} (hdir : disk.top.DirAt disk.workingDir) {path : Path}
    (hparts : ∀ part ∈ path.parts, Path.IsPart part) {location : List Text} {octets : List UInt8}
    (hlocate : disk.locate path = .ok location)
    (hget : disk.top.get? location = some (.file octets)) :
    path.name = location.getLast?.getD [] := by
  have hnot : ¬ disk.top.DirAt location := by
    rintro ⟨entries, hentries⟩
    cases hget.symm.trans hentries
  have hstart : disk.top.DirAt (disk.startOf path) := by
    rw [startOf]
    split
    · exact dirAt_nil hdir
    · exact hdir
  unfold locate followPart at hlocate
  split at hlocate
  · cases hlocate
  · rw [Path.name]
    obtain hnil | ⟨front, last, hsplit⟩ := List.eq_nil_or_concat' path.parts
    · rw [hnil] at hlocate
      obtain rfl := Except.ok.inj hlocate
      exact absurd hstart hnot
    · rw [hsplit] at hparts hlocate ⊢
      rw [follow_append] at hlocate
      obtain ⟨reached, _, hlocate⟩ := bind_eq_ok.1 hlocate
      obtain ⟨hreached, rfl | rfl⟩ := follow_last (hparts last (by simp)) hlocate
      · exact absurd (dirAt_dropLast hreached) hnot
      · rw [List.getLast?_concat, List.getLast?_concat]

/-- Seen from a place, the second path leads to where the first one leads from the working
directory. -/
structure SamePlace (disk : Disk) (path : Text) (place : List Text) (other : Text) : Prop where
  not_null : hasNull (.ofText other) = false
  location : ∃ location, disk.locate (.ofText path) = .ok location ∧
    { disk with workingDir := place }.locate (.ofText other) = .ok location

namespace SamePlace

variable {disk : Disk} {path other name : Text} {place : List Text} {octets : List UInt8}

theorem exists_file (h : disk.SamePlace path place other)
    (hread : disk.readBytes (.ofText path) name = .ok octets) :
    ∃ location, disk.locate (.ofText path) = .ok location ∧
      { disk with workingDir := place }.locate (.ofText other) = .ok location ∧
      disk.top.get? location = some (.file octets) := by
  obtain ⟨location, hlocate, hlocate'⟩ := h.location
  obtain ⟨_, hagain, hget⟩ := stat_eq_ok.1 (stat_of_readBytes hread)
  obtain rfl := Except.ok.inj (hagain.symm.trans hlocate)
  exact ⟨_, hlocate, hlocate', hget⟩

theorem readBytes (h : disk.SamePlace path place other)
    (hread : disk.readBytes (.ofText path) name = .ok octets) (shown : Text) :
    { disk with workingDir := place }.readBytes (.ofText other) shown = .ok octets := by
  obtain ⟨location, _, hlocate, hget⟩ := h.exists_file hread
  have hstat : { disk with workingDir := place }.stat (.ofText other) = .ok (.file octets) :=
    stat_eq_ok.2 ⟨location, hlocate, hget⟩
  rw [Disk.readBytes, h.not_null, hstat]
  rfl

variable {source : Text}

theorem readText (h : disk.SamePlace path place other)
    (hread : disk.readText (.ofText path) name = .ok source) (shown : Text) :
    { disk with workingDir := place }.readText (.ofText other) shown = .ok source := by
  rw [Disk.readText] at hread ⊢
  obtain ⟨octets, hoctets, hread⟩ := bind_eq_ok.1 hread
  exact bind_eq_ok.2 ⟨octets, h.readBytes hoctets shown, hread⟩

theorem name_eq (h : disk.SamePlace path place other) (hdir : disk.top.DirAt disk.workingDir)
    (hplace : disk.top.DirAt place) (hread : disk.readText (.ofText path) name = .ok source) :
    (Path.ofText other).name = (Path.ofText path).name := by
  obtain ⟨octets, hoctets, _⟩ := bind_eq_ok.1 hread
  obtain ⟨location, hlocate, hlocate', hget⟩ := h.exists_file hoctets
  have hpart : ∀ t : Text, ∀ part ∈ (Path.ofText t).parts, Path.IsPart part := fun _ _ =>
    Path.isPart_of_mem_ofText
  have hother : (Path.ofText other).name = location.getLast?.getD [] :=
    @name_of_locate { disk with workingDir := place } hplace _ (hpart other) _ _ hlocate' hget
  rw [hother, name_of_locate hdir (hpart path) hlocate hget]

end SamePlace
end EndpointManifest.Disk
