import EndpointManifest.Manifest.Basic
import Mathlib.Data.List.Induction

/-! What a manifest holds after any number of steps. A step adds the endpoints of one file to one
feature, or nothing but a warning; so the features after a run are the shares of its files, grouped
by their keys. Everything else about them is read off that list. -/

namespace EndpointManifest

open Text

namespace Assoc

variable {κ α : Type} [BEq κ] [LawfulBEq κ]

def table (g : κ → α) (keys : List κ) : List (κ × α) := keys.map fun k => (k, g k)

theorem get?_table (g : κ → α) (keys : List κ) (key : κ) :
    get? key (table g keys) = if keys.contains key then some (g key) else none := by
  induction keys with
  | nil => rfl
  | cons k keys ih =>
    by_cases hk : key = k
    · simp [get?, table, hk]
    · have hne : (key == k) = false := beq_eq_false_iff_ne.2 hk
      rw [get?, table] at ih
      rw [get?, table, List.map_cons, List.lookup_cons, hne, List.contains_cons, hne, Bool.false_or]
      exact ih

theorem modify_table (f : Option α → α) {g g' : κ → α} {keys : List κ} {key : κ}
    (hnodup : keys.Nodup) (hother : ∀ k ∈ keys, k ≠ key → g' k = g k)
    (hkey : g' key = f (if keys.contains key then some (g key) else none)) :
    modify f key (table g keys) =
      table g' (if keys.contains key then keys else keys ++ [key]) := by
  induction keys with
  | nil => simp [table, modify, hkey]
  | cons k keys ih =>
    obtain ⟨hk, hrest⟩ := List.nodup_cons.1 hnodup
    by_cases heq : k = key
    · subst heq
      have hsame : ∀ k' ∈ keys, g' k' = g k' := by
        intro k' hk'
        refine hother k' (List.mem_cons_of_mem _ hk') ?_
        rintro rfl
        exact hk hk'
      have htable : table g' keys = table g keys :=
        List.map_congr_left fun k' hk' => by rw [hsame k' hk']
      simp only [List.contains_cons, beq_self_eq_true, Bool.true_or, if_true] at hkey ⊢
      rw [table, List.map_cons, modify, if_pos (beq_self_eq_true k), ← hkey]
      rw [table, List.map_cons, ← table, ← table, htable]
    · have hne : (k == key) = false := beq_eq_false_iff_ne.2 heq
      have hne' : (key == k) = false := beq_eq_false_iff_ne.2 (Ne.symm heq)
      rw [List.contains_cons, hne', Bool.false_or] at hkey ⊢
      have ih := ih hrest (fun k' hk' => hother k' (List.mem_cons_of_mem _ hk')) hkey
      have hfirst : g' k = g k := hother k (List.mem_cons_self ..) heq
      rw [table, List.map_cons, ← table, modify, if_neg (by simp [hne]), ih, ← hfirst]
      split <;> rfl

end Assoc

namespace Manifest

/-- What one file adds: endpoints, under a key. -/
abbrev Share := Text × List Endpoint

def endpointsUnder (shares : List Share) (key : Text) : List Endpoint :=
  (shares.filter (·.1 == key)).flatMap (·.2)

/-- The keys in the order in which they first appear, each with all that was added under it. -/
def grouped (shares : List Share) : List (Text × List Endpoint) :=
  Assoc.table (endpointsUnder shares) (shares.map (·.1)).eraseDups

theorem nodup_eraseDups {α : Type} [BEq α] [LawfulBEq α] (l : List α) : l.eraseDups.Nodup := by
  match l with
  | [] => exact List.nodup_nil
  | a :: l =>
    rw [List.eraseDups_cons]
    refine List.nodup_cons.2 ⟨?_, nodup_eraseDups _⟩
    simp
termination_by l.length
decreasing_by exact Nat.lt_succ_of_le (List.length_filter_le _ _)

theorem eraseDups_concat {α : Type} [BEq α] [LawfulBEq α] (l : List α) (a : α) :
    (l ++ [a]).eraseDups =
      if l.eraseDups.contains a then l.eraseDups else l.eraseDups ++ [a] := by
  by_cases ha : a ∈ l
  · simp [List.eraseDups_append, List.removeAll, ha]
  · simp [List.eraseDups_append, List.removeAll, ha, List.eraseDups_cons]

theorem mem_keys_iff {shares : List Share} {key : Text} :
    (shares.map (·.1)).eraseDups.contains key = true ↔ ∃ share ∈ shares, share.1 = key := by
  simp

/-- Adding a share to its feature is grouping it with the others. -/
theorem modify_grouped (shares : List Share) (key : Text) (endpoints : List Endpoint) :
    Assoc.modify (fun former => former.getD [] ++ endpoints) key (grouped shares) =
      grouped (shares ++ [(key, endpoints)]) := by
  rw [grouped, grouped, List.map_append, List.map_singleton, eraseDups_concat]
  apply Assoc.modify_table _ (nodup_eraseDups _)
  · intro k _ hk
    have hne : (key == k) = false := beq_eq_false_iff_ne.2 (Ne.symm hk)
    simp [endpointsUnder, hne]
  · split
    · simp [endpointsUnder]
    · next hnew =>
      have hnone : shares.filter (·.1 == key) = [] := by
        refine List.filter_eq_nil_iff.2 fun share hshare h => hnew (mem_keys_iff.2 ?_)
        exact ⟨share, hshare, eq_of_beq h⟩
      simp [endpointsUnder, hnone]

theorem get?_grouped (shares : List Share) (key : Text) :
    Assoc.get? key (grouped shares) =
      if shares.filter (·.1 == key) = [] then none else some (endpointsUnder shares key) := by
  rw [grouped, Assoc.get?_table]
  by_cases h : ∃ share ∈ shares, share.1 = key
  · have hfilter : shares.filter (·.1 == key) ≠ [] := by
      obtain ⟨share, hshare, rfl⟩ := h
      exact List.ne_nil_of_mem (List.mem_filter.2 ⟨hshare, beq_self_eq_true _⟩)
    rw [if_pos (mem_keys_iff.2 h), if_neg hfilter]
  · have hfilter : shares.filter (·.1 == key) = [] :=
      List.filter_eq_nil_iff.2 fun share hshare hkey => h ⟨share, hshare, eq_of_beq hkey⟩
    rw [if_neg (by rw [mem_keys_iff]; exact h), if_pos hfilter]

theorem ne_nil_of_mem_grouped {shares : List Share} (h : ∀ share ∈ shares, share.2 ≠ [])
    {feature : Text × List Endpoint} (hmem : feature ∈ grouped shares) : feature.2 ≠ [] := by
  obtain ⟨key, hkey, rfl⟩ := List.mem_map.1 hmem
  obtain ⟨share, hshare, rfl⟩ := mem_keys_iff.1 (List.contains_iff_mem.2 hkey)
  obtain ⟨e, endpoints, he⟩ := List.exists_cons_of_ne_nil (h share hshare)
  refine List.ne_nil_of_mem (a := e) (List.mem_flatMap.2 ⟨share, ?_, by simp [he]⟩)
  exact List.mem_filter.2 ⟨hshare, beq_self_eq_true _⟩

/-- One step: a file that was read, or one that could not be. -/
inductive Step where
  | file (spec : Spec)
  | failure (path reason : Text)

namespace Step

def included? : Step → Option Spec
  | .file spec => if spec.endpoints.isEmpty then none else some spec
  | .failure .. => none

def warning? : Step → Option Warning
  | .file spec => if spec.endpoints.isEmpty then some (.noEndpoints spec.path) else none
  | .failure path reason => some (.skipped path reason)

theorem ne_nil_of_included {step : Step} {spec : Spec} (h : step.included? = some spec) :
    spec.endpoints ≠ [] := by
  cases step with
  | file spec' =>
    simp only [included?, Option.ite_none_left_eq_some, Option.some.injEq] at h
    obtain ⟨hne, rfl⟩ := h
    simpa using hne
  | failure path reason => cases h

def share? (settings : Settings) (step : Step) : Option Share :=
  step.included?.map fun spec => (spec.featureKey settings, spec.endpoints)

def apply (settings : Settings) (m : Manifest) : Step → Manifest
  | .file spec => m.addSpec settings spec
  | .failure path reason => m.addFailure path reason

def ofOutcome : Outcome → Step
  | (_, .ok spec) => .file spec
  | (path, .error e) => .failure path e.message

/-- Every step is included or warned of, and none is both. -/
theorem length_included_warnings (steps : List Step) :
    steps.length = (steps.filterMap included?).length + (steps.filterMap warning?).length := by
  induction steps with
  | nil => rfl
  | cons step steps ih =>
    cases step with
    | file spec =>
      by_cases h : spec.endpoints.isEmpty = true
      · simp [included?, warning?, h, ih, Nat.add_assoc]
      · simp [included?, warning?, h, ih, Nat.add_right_comm]
    | failure path reason =>
      have hincluded : (failure path reason).included? = none := rfl
      have hwarning : (failure path reason).warning? = some (.skipped path reason) := rfl
      rw [List.filterMap_cons_none hincluded, List.filterMap_cons_some hwarning, List.length_cons,
        List.length_cons, ih, Nat.add_assoc]

end Step

theorem endpointCount_modify (m : Manifest) (key : Text) (endpoints : List Endpoint) :
    endpointCount { m with
      features := Assoc.modify (fun former => former.getD [] ++ endpoints) key m.features } =
      m.endpointCount + endpoints.length := by
  simp only [endpointCount]
  induction m.features with
  | nil => simp [Assoc.modify]
  | cons feature features ih =>
    obtain ⟨k, former⟩ := feature
    rw [Assoc.modify]
    split
    · simp only [List.foldr_cons, Option.getD_some, List.length_append]
      omega
    · simp only [List.foldr_cons, ih]
      omega

/-- The manifest after some steps from a fresh one. -/
def collected (settings : Settings) (steps : List Step) : Manifest :=
  steps.foldl (Step.apply settings) {}

structure Holds (settings : Settings) (steps : List Step) (m : Manifest) : Prop where
  features : m.features = grouped (steps.filterMap (Step.share? settings))
  scanned : m.scanned = steps.length
  included : m.included = (steps.filterMap Step.included?).length
  warnings : m.warnings = steps.filterMap Step.warning?
  endpointCount : m.endpointCount =
    ((steps.filterMap Step.included?).flatMap (·.endpoints)).length

theorem holds_step {settings : Settings} {steps : List Step} {m : Manifest}
    (h : Holds settings steps m) (step : Step) :
    Holds settings (steps ++ [step]) (step.apply settings m) := by
  cases step with
  | file spec =>
    by_cases hempty : spec.endpoints.isEmpty = true
    · have hstep : (Step.file spec).apply settings m =
          { m with scanned := m.scanned + 1,
                   warnings := m.warnings ++ [.noEndpoints spec.path] } := by
        simp [Step.apply, addSpec, hempty]
      rw [hstep]
      constructor
      · simp [h.features, Step.share?, Step.included?, hempty]
      · simp [h.scanned]
      · simp [h.included, Step.included?, hempty]
      · simp [h.warnings, Step.warning?, hempty]
      · have hcount := h.endpointCount
        simpa [endpointCount, Step.included?, hempty] using hcount
    · have hstep : (Step.file spec).apply settings m =
          { m with scanned := m.scanned + 1, included := m.included + 1,
                   features := Assoc.modify (fun former => former.getD [] ++ spec.endpoints)
                     (spec.featureKey settings) m.features } := by
        simp [Step.apply, addSpec, hempty]
      rw [hstep]
      constructor
      · simp [h.features, modify_grouped, Step.share?, Step.included?, hempty]
      · simp [h.scanned]
      · simp [h.included, Step.included?, hempty]
      · simp [h.warnings, Step.warning?, hempty]
      · have hcount := endpointCount_modify m (spec.featureKey settings) spec.endpoints
        rw [h.endpointCount] at hcount
        simpa [endpointCount, Step.included?, hempty] using hcount
  | failure path reason =>
    have hincluded : [Step.failure path reason].filterMap Step.included? = [] := rfl
    have hshares : [Step.failure path reason].filterMap (Step.share? settings) = [] := rfl
    have hwarnings :
        [Step.failure path reason].filterMap Step.warning? = [.skipped path reason] := rfl
    constructor
    · rw [List.filterMap_append, hshares, List.append_nil]
      exact h.features
    · simp [Step.apply, addFailure, h.scanned]
    · rw [List.filterMap_append, hincluded, List.append_nil]
      exact h.included
    · rw [List.filterMap_append, hwarnings, ← h.warnings]
      rfl
    · rw [List.filterMap_append, hincluded, List.append_nil]
      exact h.endpointCount

theorem holds_collected (settings : Settings) (steps : List Step) :
    Holds settings steps (collected settings steps) := by
  induction steps using List.reverseRecOn with
  | nil => exact ⟨rfl, rfl, rfl, rfl, rfl⟩
  | append_singleton steps step ih =>
    rw [collected, List.foldl_append]
    exact holds_step ih step

/-- A run that goes through makes its manifest in the steps that its files lead to. -/
theorem collected_of_addOutcomes {settings : Settings} {outcomes : List Outcome} {m : Manifest}
    (h : addOutcomes settings {} outcomes = .ok m) :
    m = collected settings (outcomes.map Step.ofOutcome) := by
  unfold collected
  generalize ({} : Manifest) = m₀ at h
  induction outcomes generalizing m₀ with
  | nil => exact (Except.ok.inj h).symm
  | cons outcome outcomes ih =>
    obtain ⟨path, result⟩ := outcome
    cases result with
    | ok spec => exact ih _ h
    | error e =>
      rw [addOutcomes] at h
      split at h
      · exact ih _ h
      · cases h

/-- Two steps that never add to the same feature. -/
def Step.Apart (settings : Settings) (a b : Step) : Prop :=
  ∀ x y, a.share? settings = some x → b.share? settings = some y → x.1 ≠ y.1

theorem Step.apart_of_key_ne {settings : Settings} {a b : Spec}
    (h : a.featureKey settings ≠ b.featureKey settings) :
    Step.Apart settings (.file a) (.file b) := by
  rintro x y hx hy
  obtain ⟨s, hs, rfl⟩ := Option.map_eq_some_iff.1 hx
  obtain ⟨t, ht, rfl⟩ := Option.map_eq_some_iff.1 hy
  simp only [Step.included?, Option.ite_none_left_eq_some, Option.some.injEq] at hs ht
  rw [← hs.2, ← ht.2]
  exact h

theorem filter_swap {settings : Settings} {a b : Step} (h : a.Apart settings b)
    (front back : List Step) (key : Text) :
    ((front ++ a :: b :: back).filterMap (Step.share? settings)).filter (·.1 == key) =
      ((front ++ b :: a :: back).filterMap (Step.share? settings)).filter (·.1 == key) := by
  simp only [List.filterMap_append, List.filter_append, List.append_cancel_left_eq]
  cases ha : a.share? settings with
  | none => simp [List.filterMap_cons, ha]
  | some x =>
    cases hb : b.share? settings with
    | none => simp [ha, hb]
    | some y =>
      have hne := h x y ha hb
      by_cases hx : x.1 = key
      · have hy : (y.1 == key) = false := beq_eq_false_iff_ne.2 fun hy => hne (hx.trans hy.symm)
        simp [ha, hb, hx, hy]
      · have hx' : (x.1 == key) = false := beq_eq_false_iff_ne.2 hx
        by_cases hy : (y.1 == key) = true
        · simp [ha, hb, hx', hy]
        · simp [ha, hb, hx', hy]

theorem get?_features_swap {settings : Settings} {a b : Step} (h : a.Apart settings b)
    (front back : List Step) (key : Text) :
    Assoc.get? key (collected settings (front ++ a :: b :: back)).features =
      Assoc.get? key (collected settings (front ++ b :: a :: back)).features := by
  rw [(holds_collected _ _).features, (holds_collected _ _).features, get?_grouped, get?_grouped,
    endpointsUnder, endpointsUnder, filter_swap h]

/-- After any steps the features are those of the files with endpoints, in the order of their first
appearance, each with the endpoints of all its files in the order of the steps, and none is empty.
Every step is counted; it is one of these files, or there is a warning of it, in the order of the
steps. No two neighbouring steps that add to different features depend on their order. -/
theorem collected_eq (settings : Settings) (steps : List Step) :
    let m := collected settings steps
    let files := steps.filterMap Step.included?
    m.features = grouped (files.map fun spec => (spec.featureKey settings, spec.endpoints)) ∧
      (m.features.map (·.1)).Nodup ∧ (∀ feature ∈ m.features, feature.2 ≠ []) ∧
      m.scanned = steps.length ∧ m.included = files.length ∧
      m.scanned = m.included + m.warnings.length ∧
      m.warnings = steps.filterMap Step.warning? ∧
      m.endpointCount = (files.flatMap (·.endpoints)).length ∧
      ∀ front a b back, steps = front ++ a :: b :: back → a.Apart settings b →
        ∀ key, Assoc.get? key m.features =
          Assoc.get? key (collected settings (front ++ b :: a :: back)).features := by
  intro m files
  have h : Holds settings steps m := holds_collected settings steps
  have hfeatures : m.features =
      grouped (files.map fun spec => (spec.featureKey settings, spec.endpoints)) := by
    rw [h.features, List.map_filterMap]
    rfl
  refine ⟨hfeatures, ?_, ?_, h.scanned, h.included, ?_, h.warnings, h.endpointCount, ?_⟩
  · rw [hfeatures, grouped, Assoc.table, List.map_map]
    simpa [Function.comp_def] using nodup_eraseDups _
  · rw [hfeatures]
    intro feature hfeature
    refine ne_nil_of_mem_grouped ?_ hfeature
    intro share hshare
    obtain ⟨spec, hspec, rfl⟩ := List.mem_map.1 hshare
    obtain ⟨step, _, hstep⟩ := List.mem_filterMap.1 hspec
    exact Step.ne_nil_of_included hstep
  · rw [h.scanned, h.included, h.warnings]
    exact Step.length_included_warnings steps
  · rintro front a b back rfl hapart key
    exact get?_features_swap hapart front back key

/-- A file that is named by its group and one that is named by itself. -/
theorem collected_eq_byName :
    let widgets : Spec :=
      { path := "a.spec.ts".toList, group := some "Widgets".toList
        endpoints := [{ name := ['w'], method := .get, url := ['/', 'w'] }] }
    let gadgets : Spec :=
      { path := "t/gadgets.spec.ts".toList
        endpoints := [{ name := ['g'], method := .post, url := ['/', 'g'] }] }
    let steps := [.failure ['x'] ['y'], .file widgets, .file gadgets, .file widgets]
    (Step.file widgets).Apart {} (.file gadgets) ∧
      (collected {} steps).features.map (·.1) = ["Widgets".toList, "gadgets".toList] ∧
      Assoc.get? "Widgets".toList (collected {} steps).features =
        Assoc.get? "Widgets".toList (collected {}
          [.failure ['x'] ['y'], .file gadgets, .file widgets, .file widgets]).features := by
  intro widgets gadgets steps
  have hapart : (Step.file widgets).Apart {} (.file gadgets) :=
    Step.apart_of_key_ne (by decide +kernel)
  obtain ⟨hfeatures, _, _, _, _, _, _, _, hswap⟩ := collected_eq {} steps
  refine ⟨hapart, ?_, hswap [.failure ['x'] ['y']] _ _ [.file widgets] rfl hapart _⟩
  rw [hfeatures]
  decide +kernel

end Manifest
end EndpointManifest
