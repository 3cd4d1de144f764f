import EndpointManifest.Proofs.Failing
import EndpointManifest.Proofs.Manifest.Files
import EndpointManifest.Proofs.Manifest.RoundTrip

/-! The manifest of some files is always printed: its endpoints are those of the files, and these
are no deeper and have no longer numbers than a manifest may. -/

namespace EndpointManifest

open Text

namespace Spec

variable {disk : Disk} {reading : Reading} {s : Settings} {path : Text} {spec : Spec}

theorem ofFile_eq_ok : ofFile disk reading path = .ok spec ↔
    ∃ source spec', disk.readText (.ofText path) (Path.ofText path).toText = .ok source ∧
      ofSource reading source = .ok spec' ∧
      spec = { spec' with path := (Path.ofText path).toText } := by
  unfold ofFile
  cases hread : disk.readText (.ofText path) (Path.ofText path).toText with
  | error e => simp [hread]
  | ok source =>
    cases hsource : ofSource reading source with
    | error e => simp [hread, hsource]
    | ok spec' => simp [hread, hsource, eq_comm]

theorem valid_of_ofFile (h : ofFile disk s.reading path = .ok spec) :
    ∀ e ∈ spec.endpoints, e.Valid := by
  obtain ⟨source, spec', _, hsource, rfl⟩ := ofFile_eq_ok.1 h
  intro e he
  obtain ⟨call, _, _, _, hbuild⟩ := (forall₂_mem (build_draftFor hsource)).2 e he
  exact Draft.valid_of_build hbuild

end Spec

namespace Manifest

variable {disk : Disk} {s : Settings} {paths : List Text} {m : Manifest}

/-- A run over some files makes its manifest in the steps that the files lead to. -/
theorem ofFiles_eq_collected (hne : paths ≠ []) (h : ofFiles disk s paths = .ok m) :
    m = collected s
      (paths.map fun path => Step.ofOutcome (path, Spec.ofFile disk s.reading path)) := by
  rw [ofFiles_eq_addOutcomes hne] at h
  rw [collected_of_addOutcomes h, List.map_map]
  rfl

theorem mem_of_mem_grouped {shares : List Share} {feature : Text × List Endpoint}
    (hmem : feature ∈ grouped shares) {e : Endpoint} (he : e ∈ feature.2) :
    ∃ share ∈ shares, e ∈ share.2 := by
  obtain ⟨key, _, rfl⟩ := List.mem_map.1 hmem
  obtain ⟨share, hshare, he⟩ := List.mem_flatMap.1 he
  exact ⟨share, (List.mem_filter.1 hshare).1, he⟩

/-- Every endpoint of a manifest was read from one of its files. -/
theorem exists_ofFile_of_mem (h : ofFiles disk s paths = .ok m) {feature : Text × List Endpoint}
    (hfeature : feature ∈ m.features) {e : Endpoint} (he : e ∈ feature.2) :
    ∃ path ∈ paths, ∃ spec, Spec.ofFile disk s.reading path = .ok spec ∧ e ∈ spec.endpoints := by
  by_cases hne : paths = []
  · subst hne
    obtain rfl := Except.ok.inj h
    cases hfeature
  rw [ofFiles_eq_collected hne h, (holds_collected s _).features] at hfeature
  obtain ⟨share, hshare, he⟩ := mem_of_mem_grouped hfeature he
  obtain ⟨step, hstep, hshare⟩ := List.mem_filterMap.1 hshare
  obtain ⟨path, hpath, rfl⟩ := List.mem_map.1 hstep
  obtain ⟨spec, hspec, rfl⟩ := Option.map_eq_some_iff.1 hshare
  refine ⟨path, hpath, spec, ?_, he⟩
  cases hread : Spec.ofFile disk s.reading path with
  | error e =>
    rw [hread] at hspec
    cases hspec
  | ok spec' =>
    rw [hread] at hspec
    obtain ⟨_, heq⟩ := Option.ite_none_left_eq_some.1 hspec
    rw [Option.some.inj heq]

theorem fits_of_ofFiles (h : ofFiles disk s paths = .ok m) (levels : Depth) :
    m.toJson.Fits levels := by
  refine Json.Fits.mono (fits_toJson fun feature hfeature e he => ?_) levels.2
  obtain ⟨path, _, spec, hspec, he⟩ := exists_ofFile_of_mem h hfeature he
  exact Spec.valid_of_ofFile hspec e he

end Manifest
end EndpointManifest
