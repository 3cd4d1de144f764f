import EndpointManifest.Proofs.Manifest.Steps

/-! The manifest of files that can all be read and taken apart: each adds its endpoints to its
feature, and a file without endpoints adds nothing but a warning. -/

namespace EndpointManifest.Manifest

open Text

theorem endpointsUnder_cons (share : Share) (shares : List Share) (key : Text) :
    endpointsUnder (share :: shares) key =
      (if share.1 == key then share.2 else []) ++ endpointsUnder shares key := by
  rw [endpointsUnder, List.filter_cons]
  split <;> rfl

/-- Shares without endpoints add nothing to any feature. -/
theorem endpointsUnder_filter (shares : List Share) (key : Text) :
    endpointsUnder (shares.filter (!·.2.isEmpty)) key = endpointsUnder shares key := by
  induction shares with
  | nil => rfl
  | cons share shares ih =>
    obtain ⟨k, endpoints⟩ := share
    cases endpoints with
    | nil =>
      rw [List.filter_cons_of_neg (by simp), endpointsUnder_cons, ih, ite_self, List.nil_append]
    | cons e endpoints =>
      rw [List.filter_cons_of_pos (by simp), endpointsUnder_cons, endpointsUnder_cons, ih]

theorem get?_grouped_filter (shares : List Share) (key : Text) :
    Assoc.get? key (grouped (shares.filter (!·.2.isEmpty))) =
      if endpointsUnder shares key = [] then none else some (endpointsUnder shares key) := by
  rw [get?_grouped, endpointsUnder_filter]
  refine if_congr ?_ rfl rfl
  rw [← endpointsUnder_filter, endpointsUnder, List.flatMap_eq_nil_iff]
  constructor
  · intro hnil share hshare
    rw [hnil] at hshare
    cases hshare
  · intro hnil
    refine List.eq_nil_iff_forall_not_mem.2 fun share hshare => ?_
    have hkept := List.mem_filter.1 (List.mem_filter.1 hshare).1
    simp [hnil share hshare] at hkept

/-- A share for each spec that is added. -/
theorem filterMap_share?_file (s : Settings) (specs : List Spec) :
    (specs.map Step.file).filterMap (Step.share? s) =
      (specs.map fun spec => (spec.featureKey s, spec.endpoints)).filter (!·.2.isEmpty) := by
  induction specs with
  | nil => rfl
  | cons spec specs ih =>
    by_cases hempty : spec.endpoints.isEmpty = true
    · simpa [Step.share?, Step.included?, hempty] using ih
    · simpa [Step.share?, Step.included?, hempty] using ih

section

variable {disk : Disk} {s : Settings} {paths : List Text} {specs : List Spec}

theorem ofFiles_eq_addOutcomes (hne : paths ≠ []) : ofFiles disk s paths =
    addOutcomes s {}
      (paths.map fun path => (path, Spec.ofFile disk s.reading path)) := by
  have hempty : paths.isEmpty = false := by simpa using hne
  rw [ofFiles, hempty]
  rfl

theorem addOutcomes_files
    (h : List.Forall₂ (fun path spec => Spec.ofFile disk s.reading path = .ok spec) paths specs)
    (m : Manifest) :
    addOutcomes s m (paths.map fun path => (path, Spec.ofFile disk s.reading path)) =
      .ok ((specs.map Step.file).foldl (Step.apply s) m) := by
  induction h generalizing m with
  | nil => rfl
  | cons hread _ ih =>
    rw [List.map_cons, hread, addOutcomes]
    exact ih _

/-- Under a key stand the endpoints of the files with this key, if there are any. -/
theorem get?_ofFiles
    (h : List.Forall₂ (fun path spec => Spec.ofFile disk s.reading path = .ok spec) paths specs) :
    ∃ m, ofFiles disk s paths = .ok m ∧ ∀ key, Assoc.get? key m.features =
      let endpoints := endpointsUnder (specs.map fun spec => (spec.featureKey s, spec.endpoints)) key
      if endpoints = [] then none else some endpoints := by
  cases paths with
  | nil =>
    cases h
    exact ⟨{ warnings := [.noSpecFiles] }, rfl, fun _ => rfl⟩
  | cons path paths =>
    refine ⟨_, (ofFiles_eq_addOutcomes (List.cons_ne_nil _ _)).trans (addOutcomes_files h {}),
      fun key => ?_⟩
    rw [← collected, (holds_collected s _).features, filterMap_share?_file, get?_grouped_filter]

theorem ofFiles_single {path : Text} {spec : Spec}
    (h : Spec.ofFile disk s.reading path = .ok spec) :
    ofFiles disk s [path] = .ok (if spec.endpoints = [] then
        { scanned := 1, warnings := [.noEndpoints spec.path] }
      else
        { features := [(spec.featureKey s, spec.endpoints)], scanned := 1, included := 1 }) := by
  have hread : ofFiles disk s [path] = .ok (addSpec s {} spec) :=
    addOutcomes_files (.cons h .nil) {}
  rw [hread, addSpec]
  simp only [List.isEmpty_iff]
  split <;> rfl

end

end EndpointManifest.Manifest
