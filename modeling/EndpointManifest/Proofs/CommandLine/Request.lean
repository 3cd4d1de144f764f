import EndpointManifest.CommandLine.Run
import EndpointManifest.Proofs.File.Write

/-! A request that was made on a disk is made again when the disk has grown. -/

namespace EndpointManifest

open Text

/-- A disk as a program finds it: a proper tree, in one of whose directories the program works. -/
structure Disk.Proper (disk : Disk) : Prop where
  top : disk.top.Proper
  workingDir : disk.top.DirAt disk.workingDir

namespace CommandLine

variable {written : List Text → Prop} {before after : Disk}

theorem directory_eq_ok {parameter : Parameter} {t : Text} {path : Path}
    (h : directory before parameter t = .ok path) :
    ∃ location entries, path = ⟨.root, location⟩ ∧ Disk.hasNull (.verbatim t) = false ∧
      t.isEmpty = false ∧ before.locate (.verbatim t) = .ok location ∧
      before.top.get? location = some (.dir entries) := by
  simp only [directory] at h
  split at h
  · cases h
  · next hnull =>
    split at h
    · cases h
    · next hempty =>
      split at h
      · next location entries hlocate hnode =>
        obtain ⟨_, hstat⟩ := Disk.node?_eq_some.1 hnode
        obtain ⟨location', hlocate', hget⟩ := Disk.stat_eq_ok.1 hstat
        obtain rfl := Except.ok.inj (hlocate.symm.trans hlocate')
        exact ⟨location, entries, (Except.ok.inj h).symm, Bool.eq_false_iff.2 hnull,
          Bool.eq_false_iff.2 hempty, hlocate, hget⟩
      · cases h
      · cases h

theorem directory_grows (hgrows : before.Grows written after) {parameter : Parameter} {t : Text}
    {path : Path} (h : directory before parameter t = .ok path) :
    directory after parameter t = .ok path := by
  obtain ⟨location, entries, rfl, hnull, hempty, hlocate, hget⟩ := directory_eq_ok h
  have hlocate' : after.locate (.verbatim t) = .ok location := by
    rw [hgrows.locate (by simp [hlocate]), hlocate]
  obtain ⟨entries', hget'⟩ := hgrows.top.dirs location ⟨entries, hget⟩
  have hnode := Disk.node?_eq_some.2 ⟨hnull, Disk.stat_eq_ok.2 ⟨location, hlocate', hget'⟩⟩
  simp only [directory, hnull, hempty, hlocate', hnode]
  rfl

theorem file_grows (hgrows : before.Grows written after) {parameter : Parameter} {t found : Text}
    (h : file before parameter t = .ok found) : file after parameter t = .ok found := by
  simp only [file] at h ⊢
  split at h
  · cases h
  · next hnull =>
    split at h
    · cases h
    · next hempty =>
      split at h
      · cases h
      · cases h
      · next octets hnode =>
        obtain ⟨_, hstat⟩ := Disk.node?_eq_some.1 hnode
        obtain ⟨octets', hstat'⟩ := hgrows.stat_file hstat
        rw [if_neg hnull, if_neg hempty,
          Disk.node?_eq_some.2 ⟨Bool.eq_false_iff.2 hnull, hstat'⟩]
        exact h

theorem checkGenerate_grows (hgrows : before.Grows written after) {option : GenerateOption}
    {value : Text} (h : checkGenerate before option value = .ok ()) :
    checkGenerate after option value = .ok () := by
  cases option with
  | root =>
    simp only [checkGenerate] at h ⊢
    cases hdir : directory before .root value with
    | error e => rw [hdir] at h; cases h
    | ok path => rw [directory_grows hgrows hdir]; rfl
  | config =>
    simp only [checkGenerate] at h ⊢
    cases hfile : file before .config value with
    | error e => rw [hfile] at h; cases h
    | ok path => rw [file_grows hgrows hfile]; rfl
  | _ => exact h

theorem ofGiven_grows (hgrows : before.Grows written after) {given : Given GenerateOption}
    {g : Generate} (h : Generate.ofGiven before given = .ok g) :
    Generate.ofGiven after given = .ok g := by
  simp only [Generate.ofGiven, bind_eq_ok] at h ⊢
  obtain ⟨_, hchecks, _, hextra, h⟩ := h
  refine ⟨(), forM_eq_ok.2 fun option hoption => ?_, (), hextra, ?_⟩
  · exact checkGenerate_grows hgrows (forM_eq_ok.1 hchecks option hoption)
  · cases hvalue : given.value? .root with
    | none =>
      simp only [hvalue] at h ⊢
      rw [hgrows.workingDir]
      exact h
    | some value =>
      simp only [hvalue, bind_eq_ok] at h ⊢
      obtain ⟨path, hpath, h⟩ := h
      exact ⟨path, directory_grows hgrows hpath, h⟩

theorem rooted_of_ofGiven (hproper : before.Proper) {given : Given GenerateOption} {g : Generate}
    (h : Generate.ofGiven before given = .ok g) :
    ∃ location, g.root = ⟨.root, location⟩ ∧ before.top.DirAt location := by
  simp only [Generate.ofGiven, bind_eq_ok] at h
  obtain ⟨_, _, _, _, h⟩ := h
  cases hvalue : given.value? .root with
  | none =>
    simp only [hvalue, bind_eq_ok] at h
    obtain ⟨_, hroot, _, _, h⟩ := h
    obtain rfl := Except.ok.inj h
    exact ⟨before.workingDir, (Except.ok.inj hroot).symm, hproper.workingDir⟩
  | some value =>
    simp only [hvalue, bind_eq_ok] at h
    obtain ⟨path, hpath, _, _, h⟩ := h
    obtain rfl := Except.ok.inj h
    obtain ⟨location, entries, hroot, _, _, _, hget⟩ := directory_eq_ok hpath
    exact ⟨location, hroot, entries, hget⟩

theorem isPart_of_rooted (hproper : before.top.Proper) {root : Path}
    (h : ∃ location, root = ⟨.root, location⟩ ∧ before.top.DirAt location) :
    ∀ part ∈ root.parts, Path.IsPart part := by
  obtain ⟨location, rfl, entries, hget⟩ := h
  intro part hpart
  exact ((hproper.get? hget).1 part hpart).toIsPart

end CommandLine
end EndpointManifest
