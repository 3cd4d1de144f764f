import EndpointManifest.Manifest.Basic
import EndpointManifest.Proofs.Endpoint.Draft

/-! When reading fails. Nothing that is recovered from a call can make it fail, and no check of an
endpoint does; what can is the name of a call that stands before every test, for it is made from the
URL. Such a call ends the reading of its file and the run. -/

namespace EndpointManifest

open Text

def Call.IsUntitled (source : Text) (call : Call) : Prop :=
  ∀ label ∈ (LabelIndex.ofSource source).titles, (call.offset : Int) < label.offset

namespace Spec

/-- Every call without title has a URL that can be taken apart. -/
def Namable (clients : List Text) (source : Text) : Prop :=
  ∀ call ∈ Call.findCalls source clients, call.IsUntitled source →
    ∃ parts, Url.parts call.url = .ok parts

theorem exists_endpointFor {source : Text} {window : Nat} {call : Call} :
    (∃ e, endpointFor source (LabelIndex.ofSource source) window call = .ok e) ↔
      (call.IsUntitled source → ∃ parts, Url.parts call.url = .ok parts) := by
  have hname : (∃ e, endpointFor source (LabelIndex.ofSource source) window call = .ok e) ↔
      ∃ name, nameFor call.method.name call.url
        ((LabelIndex.ofSource source).nearest? call.offset) = .ok name := by
    simp only [endpointFor_eq_ok]
    constructor
    · rintro ⟨_, name, h, _⟩
      exact ⟨name, h⟩
    · rintro ⟨name, h⟩
      exact ⟨_, name, h, rfl⟩
  have huntitled : call.IsUntitled source ↔
      (LabelIndex.ofSource source).nearest? call.offset = none :=
    LabelIndex.nearest?_eq_none.symm
  rw [hname, huntitled]
  cases htitle : (LabelIndex.ofSource source).nearest? call.offset with
  | none => simpa using exists_nameFor_none
  | some title =>
    have hne := LabelIndex.nearest?_ne_nil htitle
    simp [nameFor_title hne]

theorem exists_ofSource {settings : Settings} {source : Text} :
    (∃ spec, ofSource settings.reading source = .ok spec) ↔ Namable settings.receivers source := by
  have hlist : (∃ spec, ofSource settings.reading source = .ok spec) ↔ ∃ endpoints,
      List.Forall₂ (fun call e =>
          endpointFor source (LabelIndex.ofSource source) settings.window call = .ok e)
        (Call.findCalls source settings.receivers) endpoints := by
    simp only [ofSource_eq_ok]
    constructor
    · rintro ⟨spec, _, _, h⟩
      exact ⟨spec.endpoints, h⟩
    · rintro ⟨endpoints, h⟩
      exact ⟨⟨[], _, endpoints⟩, rfl, rfl, h⟩
  rw [hlist, exists_forall₂]
  exact forall₂_congr fun call _ => exists_endpointFor

/-- The endpoints are those that the checked drafts of the calls give, one for each call. -/
theorem build_draftFor {settings : Settings} {source : Text} {spec : Spec}
    (h : ofSource settings.reading source = .ok spec) :
    List.Forall₂ (fun call e => e.method = call.method ∧ e.url = call.url ∧
        (draftFor source e.name settings.window call).build = .valid e)
      (Call.findCalls source settings.receivers) spec.endpoints := by
  obtain ⟨_, _, hall⟩ := ofSource_eq_ok.1 h
  refine (forall₂_mem hall).1.imp ?_
  rintro call e ⟨hcall, he⟩
  have hdraft : draftFor source e.name settings.window call = Draft.ofEndpoint e := draftFor_eq he
  obtain ⟨name, _, heq⟩ := endpointFor_eq_ok.1 he
  refine ⟨by rw [heq], by rw [heq], ?_⟩
  rw [hdraft]
  exact Draft.build_ofEndpoint (Endpoint.wellFormed_of_endpointFor hcall he)

/-- What stands at a path lets the run go on: a file that cannot be read, the path apart that is no
path, or a source that can be read. -/
def Harmless (disk : Disk) (settings : Settings) (path : Text) : Prop :=
  match disk.readText (Path.ofText path) (Path.ofText path).toText with
  | .error e => e ≠ .nullInPath
  | .ok source => Namable settings.receivers source

theorem harmless_iff {disk : Disk} {settings : Settings} {path : Text} :
    Harmless disk settings path ↔
      ∀ e, ofFile disk settings.reading path = .error e → e.isPassedOver = true := by
  simp only [Harmless, ofFile]
  cases disk.readText (Path.ofText path) (Path.ofText path).toText with
  | error e => cases e <;> simp [SpecError.isPassedOver]
  | ok source =>
    simp only [← exists_ofSource]
    cases ofSource settings.reading source with
    | ok spec => simp
    | error e => simp [SpecError.isPassedOver]

end Spec

namespace Manifest

theorem exists_addOutcomes {settings : Settings} {m : Manifest} {outcomes : List Outcome} :
    (∃ m', addOutcomes settings m outcomes = .ok m') ↔
      ∀ outcome ∈ outcomes, ∀ e, outcome.2 = .error e → e.isPassedOver = true := by
  induction outcomes generalizing m with
  | nil => simp [addOutcomes]
  | cons outcome outcomes ih =>
    obtain ⟨path, result⟩ := outcome
    cases result with
    | ok spec => simpa [addOutcomes] using ih
    | error e =>
      rw [addOutcomes]
      by_cases he : e.isPassedOver = true
      · simpa [he] using ih
      · simp [he]

theorem exists_ofFiles {disk : Disk} {settings : Settings} {paths : List Text} :
    (∃ m, ofFiles disk settings paths = .ok m) ↔
      ∀ path ∈ paths, Spec.Harmless disk settings path := by
  cases paths with
  | nil => simp [ofFiles]
  | cons path paths =>
    show (∃ m, addOutcomes settings {} _ = .ok m) ↔ _
    rw [exists_addOutcomes]
    simp only [List.mem_map, forall_exists_index, and_imp, forall_apply_eq_imp_iff₂,
      Spec.harmless_iff]

end Manifest

/-- Reading fails exactly at a call that no test precedes and whose URL cannot be taken apart; the
run fails with it. Otherwise each call gives one endpoint, which every check lets pass. -/
theorem reading_fails_iff (settings : Settings) :
    (∀ source, (∃ spec, Spec.ofSource settings.reading source = .ok spec) ↔
      Spec.Namable settings.receivers source) ∧
    (∀ source spec, Spec.ofSource settings.reading source = .ok spec →
      List.Forall₂ (fun call e => e.method = call.method ∧ e.url = call.url ∧
          (Spec.draftFor source e.name settings.window call).build = .valid e)
        (Call.findCalls source settings.receivers) spec.endpoints) ∧
    ∀ disk paths, (∃ m, Manifest.ofFiles disk settings paths = .ok m) ↔
      ∀ path ∈ paths, Spec.Harmless disk settings path :=
  ⟨fun _ => Spec.exists_ofSource, fun _ _ h => Spec.build_draftFor h,
    fun _ _ => Manifest.exists_ofFiles⟩

/-- An open bracket where the host should stand. -/
theorem reading_fails_openBracket :
    Spec.ofSource ({} : Settings).reading "request.get('http://[')".toList = .error .brackets := by
  decide +kernel

end EndpointManifest
