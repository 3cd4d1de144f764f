import EndpointManifest.CommandLine.Inspect
import EndpointManifest.Proofs.File.Location
import EndpointManifest.Proofs.Json.Printable
import EndpointManifest.Proofs.Manifest.Printed

/-! `inspect` shows what a manifest is made of. What it prints of a file can be read back, so that a
manifest can be foretold from the output alone: under each key it has the endpoints that are shown
with this feature, file by file. The paths need not be the same, as long as they lead to the same
files. -/

namespace EndpointManifest

open Text

namespace Spec

variable {s : Settings} {source : Text} {spec : Spec}

theorem mapM_ofJson?_endpoints (h : ofSource s.reading source = .ok spec) :
    (spec.endpoints.map Endpoint.toJson).mapM Endpoint.ofJson? = some spec.endpoints := by
  obtain ⟨_, _, hall⟩ := ofSource_eq_ok.1 h
  refine mapM_eq_some fun e he => ?_
  obtain ⟨call, hcall, hfor⟩ := (forall₂_mem hall).2 e he
  obtain ⟨call', _, _, _, hbuild⟩ := (forall₂_mem (build_draftFor h)).2 e he
  have hbody : e.body ≠ some [] := fun hbody =>
    ((Endpoint.wellFormed_of_endpointFor hcall hfor).body [] hbody).ne_nil rfl
  rw [Endpoint.ofJson?, Endpoint.ofJson_toJson (Draft.valid_of_build hbuild) hbody]

variable {disk : Disk} {reading : Reading} {path : Text}

theorem featureKey_congr {spec' : Spec} (hgroup : spec'.group = spec.group)
    (hname : (Path.ofText spec'.path).name = (Path.ofText spec.path).name) :
    spec'.featureKey s = spec.featureKey s := by
  rw [featureKey, featureKey, hgroup, hname]

variable {other : Text} {place : List Text}

/-- A file gives the same under every path to it, but for the path that is shown. -/
theorem ofFile_of_samePlace (h : disk.SamePlace path place other)
    (hspec : ofFile disk s.reading path = .ok spec) :
    ofFile { disk with workingDir := place } s.reading other =
      .ok { spec with path := (Path.ofText other).toText } := by
  obtain ⟨source, spec', hread, hsource, rfl⟩ := ofFile_eq_ok.1 hspec
  exact ofFile_eq_ok.2 ⟨source, spec', h.readText hread _, hsource, rfl⟩

theorem featureKey_of_samePlace (hdir : disk.top.DirAt disk.workingDir)
    (hplace : disk.top.DirAt place) (h : disk.SamePlace path place other)
    (hspec : ofFile disk s.reading path = .ok spec) :
    featureKey { spec with path := (Path.ofText other).toText } s = spec.featureKey s := by
  obtain ⟨source, spec', hread, _, rfl⟩ := ofFile_eq_ok.1 hspec
  refine featureKey_congr rfl ?_
  rw [Path.ofText_toText_ofText, Path.ofText_toText_ofText]
  exact h.name_eq hdir hplace hread

end Spec

namespace CommandLine.Inspect

/-- The feature and the endpoints that are printed, as a reader of the output takes them. -/
def printed? (o : Outcome) : Option (Text × List Endpoint) :=
  if o.failure.isSome then none
  else (Json.read? o.disk.room.print o.output).bind fun j =>
    match j.member? "feature".toList, j.member? "endpoints".toList with
    | some (.str feature), some (.arr items) => (items.mapM Endpoint.ofJson?).map (feature, ·)
    | _, _ => none

variable {disk : Disk} {s : Settings} {path : Text}

theorem fits_toJson {spec : Spec} (h : ∀ e ∈ spec.endpoints, e.Valid) (feature : Text) :
    (toJson spec feature).Fits 4 := by
  refine .obj fun member hmember => ?_
  simp only [List.mem_cons, List.not_mem_nil, or_false] at hmember
  rcases hmember with rfl | rfl | rfl
  · exact .str _
  · exact .str _
  · refine .arr fun item hitem => ?_
    obtain ⟨e, he, rfl⟩ := List.mem_map.1 hitem
    exact (Endpoint.fits_toJson fun n hn => ((h e he).status n hn).2).mono (by decide)

theorem report_eq {spec : Spec} (h : Spec.ofFile disk s.reading path = .ok spec) :
    ∃ json, Json.render disk.room.print (toJson spec (spec.featureKey s)) = .ok json ∧
      report disk s path = { disk, output := json ++ ['\n'] } := by
  have hfits : (toJson spec (spec.featureKey s)).Fits disk.room.print :=
    (fits_toJson (Spec.valid_of_ofFile h) _).mono disk.room.print.2
  refine ⟨_, hfits.render_eq, ?_⟩
  have hprintable := (Json.printable_renderAt 0 (toJson spec (spec.featureKey s))).append
    (by decide : Json.Printable ['\n'])
  rw [report, h]
  simp only [hfits.render_eq, hprintable.withoutControls_eq]

theorem printed?_report {spec : Spec} (h : Spec.ofFile disk s.reading path = .ok spec) :
    printed? (report disk s path) = some (spec.featureKey s, spec.endpoints) := by
  obtain ⟨json, hjson, hreport⟩ := report_eq h
  obtain ⟨source, spec', _, hsource, rfl⟩ := Spec.ofFile_eq_ok.1 h
  have hitems := Spec.mapM_ofJson?_endpoints hsource
  rw [hreport, printed?, if_neg (by simp), Json.read?_of_render hjson (.inr rfl), Option.bind_some]
  show ((spec'.endpoints.map Endpoint.toJson).mapM Endpoint.ofJson?).map _ = _
  rw [hitems]
  rfl

theorem printed?_report_eq_some {shown : Manifest.Share} :
    printed? (report disk s path) = some shown ↔
      ∃ spec, Spec.ofFile disk s.reading path = .ok spec ∧
        shown = (spec.featureKey s, spec.endpoints) := by
  cases h : Spec.ofFile disk s.reading path with
  | error e => simp [report, h, printed?]
  | ok spec => simp [printed?_report h, eq_comm]

/-- This is shown of the file that a path leads to, seen from a place; it need not be shown under
the same path. -/
def Shows (disk : Disk) (s : Settings) (place : List Text) (other : Text)
    (shown : Manifest.Share) : Prop :=
  ∃ path, disk.SamePlace path place other ∧ printed? (report disk s path) = some shown

theorem Shows.exists_spec {place : List Text} {other : Text} {shown : Manifest.Share}
    (hdir : disk.top.DirAt disk.workingDir) (hplace : disk.top.DirAt place)
    (h : Shows disk s place other shown) :
    ∃ spec, Spec.ofFile { disk with workingDir := place } s.reading other = .ok spec ∧
      spec.path = (Path.ofText other).toText ∧ shown = (spec.featureKey s, spec.endpoints) := by
  obtain ⟨path, hsame, hprinted⟩ := h
  obtain ⟨spec, hspec, rfl⟩ := printed?_report_eq_some.1 hprinted
  refine ⟨_, Spec.ofFile_of_samePlace hsame hspec, rfl, ?_⟩
  rw [Spec.featureKey_of_samePlace hdir hplace hsame hspec]

theorem exists_specs {place : List Text} {others : List Text} {shown : List Manifest.Share}
    (hdir : disk.top.DirAt disk.workingDir) (hplace : disk.top.DirAt place)
    (h : List.Forall₂ (Shows disk s place) others shown) :
    ∃ specs, List.Forall₂ (fun path spec =>
        Spec.ofFile { disk with workingDir := place } s.reading path = .ok spec) others specs ∧
      shown = specs.map fun spec => (spec.featureKey s, spec.endpoints) := by
  induction h with
  | nil => exact ⟨[], .nil, rfl⟩
  | cons hshows _ ih =>
    obtain ⟨spec, hspec, _, rfl⟩ := hshows.exists_spec hdir hplace
    obtain ⟨specs, hspecs, rfl⟩ := ih
    exact ⟨spec :: specs, .cons hspec hspecs, rfl⟩

/-- `inspect` prints a feature and endpoints of every file that can be read and taken apart. The
manifest of this file alone, under whatever path, is that feature with those endpoints, or nothing
but a warning when there are none; and in the manifest of many files a feature has the endpoints of
all files with which it was printed, one file after another. -/
theorem report_foretells (hdir : disk.top.DirAt disk.workingDir) (s : Settings) :
    (∀ i : Inspect, i.settings disk = .ok s → i.run disk = report disk s i.specFile) ∧
    (∀ path, (∃ shown, printed? (report disk s path) = some shown) ↔
      ∃ source spec, disk.readText (.ofText path) (Path.ofText path).toText = .ok source ∧
        Spec.ofSource s.reading source = .ok spec) ∧
    ∀ place, disk.top.DirAt place →
      (∀ other k es, Shows disk s place other (k, es) →
        Manifest.ofFiles { disk with workingDir := place } s [other] =
          .ok (if es = [] then
              { scanned := 1, warnings := [.noEndpoints (Path.ofText other).toText] }
            else { features := [(k, es)], scanned := 1, included := 1 })) ∧
      ∀ others shown, List.Forall₂ (Shows disk s place) others shown →
        ∃ m, Manifest.ofFiles { disk with workingDir := place } s others = .ok m ∧
          ∀ key, Assoc.get? key m.features =
            let endpoints := Manifest.endpointsUnder shown key
            if endpoints = [] then none else some endpoints := by
  refine ⟨fun i hi => by rw [run, hi], fun path => ⟨?_, ?_⟩, fun place hplace => ⟨?_, ?_⟩⟩
  · rintro ⟨shown, hshown⟩
    obtain ⟨spec, hspec, _⟩ := printed?_report_eq_some.1 hshown
    obtain ⟨source, spec', hread, hsource, _⟩ := Spec.ofFile_eq_ok.1 hspec
    exact ⟨source, spec', hread, hsource⟩
  · rintro ⟨source, spec, hread, hsource⟩
    exact ⟨_, printed?_report (Spec.ofFile_eq_ok.2 ⟨source, spec, hread, hsource, rfl⟩)⟩
  · intro other k es hshows
    obtain ⟨spec, hspec, hpath, heq⟩ := hshows.exists_spec hdir hplace
    obtain ⟨rfl, rfl⟩ := Prod.mk.inj heq
    rw [Manifest.ofFiles_single hspec, hpath]
  · intro others shown hshows
    obtain ⟨specs, hspecs, rfl⟩ := exists_specs hdir hplace hshows
    exact Manifest.get?_ofFiles hspecs

/-- A file with an endpoint and one without, each shown under one path and then read under
another, from within their directory. -/
theorem report_foretells_within :
    let tests : Tree := .dir
      [("a.ts".toList, .file (encodeUtf8 "fetch('/x')".toList)), ("b.ts".toList, .file [])]
    let disk : Disk := { top := .dir [(['t'], tests)] }
    let within : Disk := { disk with workingDir := [['t']] }
    let e : Endpoint := { name := "GET /x".toList, method := .get, url := "/x".toList }
    ({ specFile := "t/a.ts".toList } : Inspect).settings disk = .ok {} ∧
      printed? (report disk {} "t/a.ts".toList) = some (['a'], [e]) ∧
      Manifest.ofFiles within {} ["./a.ts".toList] =
        .ok { features := [(['a'], [e])], scanned := 1, included := 1 } ∧
      printed? (report disk {} "t/b.ts".toList) = some (['b'], []) ∧
      Manifest.ofFiles within {} ["//t/b.ts".toList] =
        .ok { scanned := 1, warnings := [.noEndpoints "//t/b.ts".toList] } := by
  intro tests disk within e
  have hdir : disk.top.DirAt disk.workingDir := ⟨_, rfl⟩
  have hplace : disk.top.DirAt [['t']] := ⟨_, rfl⟩
  have hfirst : printed? (report disk {} "t/a.ts".toList) = some (['a'], [e]) := by
    decide +kernel
  have hsecond : printed? (report disk {} "t/b.ts".toList) = some (['b'], []) := by
    decide +kernel
  have hsame : disk.SamePlace "t/a.ts".toList [['t']] "./a.ts".toList :=
    ⟨by decide, [['t'], "a.ts".toList], by decide +kernel, by decide +kernel⟩
  have hsame' : disk.SamePlace "t/b.ts".toList [['t']] "//t/b.ts".toList :=
    ⟨by decide, [['t'], "b.ts".toList], by decide +kernel, by decide +kernel⟩
  obtain ⟨hsingle, _⟩ := (report_foretells hdir {}).2.2 [['t']] hplace
  exact ⟨by rfl, hfirst, hsingle _ _ _ ⟨_, hsame, hfirst⟩, hsecond,
    hsingle _ _ _ ⟨_, hsame', hsecond⟩⟩

end CommandLine.Inspect
end EndpointManifest
