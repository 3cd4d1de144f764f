import EndpointManifest.Proofs.CommandLine.Collect
import EndpointManifest.Proofs.CommandLine.Request
import EndpointManifest.Proofs.Manifest.Printed

/-! Running `generate` twice. The second run finds the disk as the first one left it. It repeats the
first run to the letter unless the files that were written are read in turn, as spec files, when
discovery comes upon them, or as settings, or the directories that were made lie too deep for
discovery. -/

namespace EndpointManifest.CommandLine

open Text

def request? (disk : Disk) (arguments : List Text) : Option Generate :=
  match Switch.readAll generateSwitches true arguments with
  | .error _ => none
  | .ok given => if given.has .help then none else (Generate.ofGiven disk given).toOption

theorem request?_eq_some {disk : Disk} {arguments : List Text} {g : Generate} :
    request? disk arguments = some g ↔
      ∃ given, Switch.readAll generateSwitches true arguments = .ok given ∧
        given.has .help = false ∧ Generate.ofGiven disk given = .ok g := by
  unfold request?
  cases Switch.readAll generateSwitches true arguments with
  | error e => simp
  | ok given =>
    cases hhelp : given.has .help with
    | true => simp [hhelp]
    | false => cases hgiven : Generate.ofGiven disk given <;> simp [hhelp, hgiven, Except.toOption]

theorem runGenerate_eq {disk : Disk} {arguments : List Text} {g : Generate}
    (h : request? disk arguments = some g) : runGenerate disk arguments = g.run disk := by
  obtain ⟨given, hread, hhelp, hgiven⟩ := request?_eq_some.1 h
  simp [runGenerate, hread, hhelp, hgiven]

theorem request?_grows {written : List Text → Prop} {before after : Disk}
    (hgrows : before.Grows written after) {arguments : List Text} {g : Generate}
    (h : request? before arguments = some g) : request? after arguments = some g := by
  obtain ⟨given, hread, hhelp, hgiven⟩ := request?_eq_some.1 h
  exact request?_eq_some.2 ⟨given, hread, hhelp, ofGiven_grows hgrows hgiven⟩

/-- What a call of `generate` writes: the request that it makes, the settings and the manifest. -/
def written? (disk : Disk) (arguments : List Text) : Option (Generate × Settings × Manifest) :=
  (request? disk arguments).bind fun g =>
    if g.dryRun then none
    else match g.collect disk with
      | .ok (s, some m) => some (g, s, m)
      | _ => none

namespace Generate

variable {disk : Disk} {g : Generate} {s : Settings} {m : Manifest}

def outPath (g : Generate) (s : Settings) : Path := g.root.child s.outDir

def manifestPath (g : Generate) (s : Settings) (format : Output.Format) : Path :=
  (g.outPath s).child format.fileName

/-- Discovery takes one of the manifest's files for a spec file: it stands in the tests directory or
below it, no directory on the way hides it, and its name has a suffix of spec files. -/
def Rescans (disk : Disk) (g : Generate) (s : Settings) : Prop :=
  ∃ format ∈ Output.formats s.withJson s.withTs,
    Discovery.isSpecFile s.suffixes format.fileName = true ∧
      ∃ tests dirs, disk.locate (g.root.child s.testsDir) = .ok tests ∧
        disk.locate (g.outPath s) = .ok (tests ++ dirs) ∧
        ∀ dir ∈ dirs, Discovery.entersDir dir = true

/-- One of the manifest's files takes the place of the settings file that was asked for. -/
def Overwrites (disk : Disk) (g : Generate) (s : Settings) : Prop :=
  ∃ path, g.config = some path ∧ ∃ format ∈ Output.formats s.withJson s.withTs,
    disk.locate (.verbatim path) = disk.locate (g.manifestPath s format)

def SameFiles (g : Generate) (s : Settings) (first second : Disk) : Prop :=
  ∀ format ∈ Output.formats s.withJson s.withTs,
    second.stat (g.manifestPath s format) = first.stat (g.manifestPath s format)

theorem ofText_outPath (hparts : ∀ part ∈ g.root.parts, Path.IsPart part) :
    Path.ofText (g.root.child s.outDir).toText = g.outPath s :=
  Path.ofText_toText (Path.isPart_child hparts s.outDir)

theorem publish_eq {after : Disk} {paths : List Path}
    (h : Output.write disk m.toJson (g.root.child s.outDir).toText s.withJson s.withTs =
      (after, .ok paths)) :
    g.publish disk s m =
      { disk := after
        output := withoutControls (g.report m paths) ++ (g.appendix m).1
        warnings := m.warnings.map Warning.message
        failure := (g.appendix m).2 } := by
  rw [publish, h]

theorem exists_write_of_publish (h : (g.publish disk s m).failure = none) :
    ∃ after paths, Output.write disk m.toJson (g.root.child s.outDir).toText s.withJson s.withTs =
      (after, .ok paths) := by
  cases hwrite : Output.write disk m.toJson (g.root.child s.outDir).toText s.withJson s.withTs with
  | mk after result =>
    cases result with
    | ok paths => exact ⟨after, paths, rfl⟩
    | error e =>
      rw [publish, hwrite] at h
      cases h

end Generate

theorem failure_of_exitCode {o : Outcome} (h : o.exitCode = 0) : o.failure = none := by
  unfold Outcome.exitCode at h
  cases hfailure : o.failure with
  | none => rfl
  | some failure =>
    rw [hfailure] at h
    cases failure <;> cases h

/-- A run that writes no manifest leaves the disk as it was. -/
theorem disk_of_not_written {disk : Disk} {arguments : List Text}
    (h : written? disk arguments = none) : (runGenerate disk arguments).disk = disk := by
  unfold written? request? at h
  unfold runGenerate
  cases hread : Switch.readAll generateSwitches true arguments with
  | error e => rfl
  | ok given =>
    cases hhelp : given.has .help with
    | true => simp [hhelp, printed]
    | false =>
      cases hgiven : Generate.ofGiven disk given with
      | error failure => simp [hhelp, hgiven, failed]
      | ok g =>
        simp only [hread, hhelp, hgiven, Except.toOption, Bool.false_eq_true, if_false] at h ⊢
        rw [Option.bind_some] at h
        unfold Generate.run
        split
        · rfl
        · rfl
        · next s m hcollect =>
          by_cases hdry : g.dryRun = true
          · rw [if_pos hdry]
          · rw [if_neg hdry, hcollect] at h
            cases h

theorem written?_eq_some {disk : Disk} {arguments : List Text} {g : Generate} {s : Settings}
    {m : Manifest} (h : written? disk arguments = some (g, s, m)) :
    request? disk arguments = some g ∧ g.dryRun = false ∧ g.collect disk = .ok (s, some m) := by
  obtain ⟨g', hrequest, h⟩ := Option.bind_eq_some_iff.1 h
  split at h
  · cases h
  · next hdry =>
    split at h
    · next s' m' hcollect =>
      obtain ⟨rfl, rfl, rfl⟩ := h
      exact ⟨hrequest, Bool.eq_false_iff.2 hdry, hcollect⟩
    · cases h

namespace Generate

variable {g : Generate} {s : Settings} {m : Manifest}

/-- What is collected is printed. -/
theorem exists_printed {disk : Disk} (h : g.collect disk = .ok (s, some m)) (levels : Depth) :
    ∃ json, Json.render levels m.toJson = .ok json := by
  obtain ⟨_, _, _, _, hm⟩ := collect_eq_ok.1 h
  exact ⟨_, (Manifest.fits_of_ofFiles hm levels).render_eq⟩

structure Ran (g : Generate) (s : Settings) (m : Manifest) (json : Text) (before after : Disk)
    (paths : List Path) : Prop where
  collected : g.collect before = .ok (s, some m)
  wet : g.dryRun = false
  proper : before.top.Proper
  rooted : ∃ location, g.root = ⟨.root, location⟩ ∧ before.top.DirAt location
  printed : Json.render after.room.print m.toJson = .ok json
  published : Output.Published json (g.root.child s.outDir).toText s.withJson s.withTs before after
    paths

namespace Ran

variable {json : Text} {before after : Disk} {paths : List Path}

theorem isPart_root (h : g.Ran s m json before after paths) :
    ∀ part ∈ g.root.parts, Path.IsPart part :=
  isPart_of_rooted h.proper h.rooted

theorem place (h : g.Ran s m json before after paths) {location : List Text}
    (hplace : Output.PlaceOf (Path.ofText (g.root.child s.outDir).toText)
      (Output.formats s.withJson s.withTs) after location) :
    ∃ format ∈ Output.formats s.withJson s.withTs, ∃ parent,
      after.locate (g.outPath s) = .ok parent ∧ location = parent ++ [format.fileName] := by
  rw [← ofText_outPath h.isPart_root]
  exact h.published.place hplace

theorem settings (h : g.Ran s m json before after paths) (hconfig : ¬ g.Overwrites after s) :
    g.settings after = .ok s := by
  obtain ⟨location, hroot, hdir⟩ := h.rooted
  refine settings_grows h.published.grows h.proper hroot hdir ?_ ?_ (collect_eq_ok.1 h.collected).1
  · intro place hplace
    obtain ⟨format, _, parent, _, heq⟩ := h.place hplace
    exact ⟨parent, format, heq⟩
  · rintro path hpath place hlocate ⟨format, hformat, hplace⟩
    refine hconfig ⟨path, hpath, format, hformat, ?_⟩
    rw [h.published.grows.locate (by simp [hlocate]), hlocate, manifestPath,
      ← ofText_outPath h.isPart_root, hplace]

/-- Unless discovery comes upon a written file or gets too deep, the second run collects the same
manifest. -/
theorem collect (h : g.Ran s m json before after paths) (hconfig : ¬ g.Overwrites after s)
    (hrescans : ¬ g.Rescans after s) (hdepth : g.specFiles after s ≠ .error .tooDeep) :
    g.collect after = .ok (s, some m) := by
  refine collect_grows h.published.grows h.proper (h.published.proper h.proper) h.isPart_root ?_
    hdepth (h.settings hconfig) h.collected
  rintro tests htests ⟨dirs, name, hplace, hdirs, hspec⟩
  obtain ⟨format, hformat, parent, hparent, heq⟩ := h.place hplace
  rw [← List.append_assoc] at heq
  obtain ⟨rfl, hname⟩ := List.append_inj' heq rfl
  obtain rfl := List.singleton_inj.1 hname
  exact hrescans ⟨format, hformat, hspec, tests, dirs, htests, hparent, hdirs⟩

theorem run_eq (h : g.Ran s m json before after paths) (hconfig : ¬ g.Overwrites after s)
    (hrescans : ¬ g.Rescans after s) (hdepth : g.specFiles after s ≠ .error .tooDeep) :
    g.run after = g.publish after s m := by
  simp [run, h.collect hconfig hrescans hdepth, h.wet]

/-- A second run that gets too deep ends there. -/
theorem run_eq_tooDeep (h : g.Ran s m json before after paths) (hconfig : ¬ g.Overwrites after s)
    (hdepth : g.specFiles after s = .error .tooDeep) :
    g.run after = { disk := after, failure := some .tooDeep } := by
  have hcollect : g.collect after = .error .tooDeep := by
    simp [Generate.collect, h.settings hconfig, hdepth, bind, Except.bind]
  rw [run, hcollect]

/-- Whatever the second run collects, it has the manifest's files at the same places; so they are
the same iff it collects the same features, or fails before it writes. -/
theorem sameFiles_iff (h : g.Ran s m json before after paths) (hconfig : ¬ g.Overwrites after s) :
    g.SameFiles s after (g.run after).disk ↔
      ∀ s' m', g.collect after = .ok (s', some m') → m'.toJson = m.toJson := by
  have hout := ofText_outPath (s := s) h.isPart_root
  cases hcollect : g.collect after with
  | error failure => simp [run, hcollect, SameFiles]
  | ok collected =>
    obtain ⟨s', collected⟩ := collected
    have hsettings := settings_of_collect hcollect
    obtain rfl := Except.ok.inj ((h.settings hconfig).symm.trans hsettings)
    cases collected with
    | none => simp [run, hcollect, SameFiles]
    | some m' =>
      obtain ⟨json', hjson'⟩ := exists_printed hcollect after.room.print
      obtain ⟨last, hlast⟩ := h.published.exists_write hjson'
      obtain ⟨_, hagain, hpublished⟩ := Output.published_of_write hlast
      obtain rfl := Except.ok.inj (hjson'.symm.trans hagain)
      have hdisk : (g.run after).disk = last := by
        simp [run, hcollect, h.wet, publish_eq hlast]
      have hfile : ∀ format ∈ Output.formats s.withJson s.withTs,
          after.stat (g.manifestPath s format) =
              .ok (.file (encodeUtf8 (Output.enclose json format))) ∧
            last.stat (g.manifestPath s format) =
              .ok (.file (encodeUtf8 (Output.enclose json' format))) := by
        intro format hformat
        rw [manifestPath, ← hout]
        exact ⟨(h.published.saved format hformat).stat, (hpublished.saved format hformat).stat⟩
      rw [hdisk]
      constructor
      · intro hsame s'' m'' heq
        obtain ⟨rfl, rfl⟩ := heq
        have hjs : Output.Format.js ∈ Output.formats s.withJson s.withTs := by simp [Output.formats]
        obtain ⟨hfirst, hsecond⟩ := hfile .js hjs
        have hstat := hsame .js hjs
        rw [hfirst, hsecond] at hstat
        have hbytes := Tree.file.inj (Except.ok.inj hstat)
        obtain rfl := Output.enclose_injective (encodeUtf8_injective hbytes)
        exact Json.render_injective hjson' h.printed
      · intro hfeatures format hformat
        obtain ⟨hfirst, hsecond⟩ := hfile format hformat
        rw [hfeatures _ _ rfl, h.printed] at hjson'
        rw [hfirst, hsecond, Except.ok.inj hjson']

end Ran
end Generate

/-- A second run repeats the first, its disk, its output and its warnings, when discovery neither
comes upon a written file nor gets too deep. In any case it leaves the manifest's files as they are
iff what it collects, if it gets so far, has the same features. -/
theorem rerun_iff {disk : Disk} {arguments : List Text} {g : Generate} {s : Settings} {m : Manifest}
    (hproper : disk.Proper) (hexit : (runGenerate disk arguments).exitCode = 0)
    (hwritten : written? disk arguments = some (g, s, m))
    (hconfig : ¬ g.Overwrites (runGenerate disk arguments).disk s) :
    let first := runGenerate disk arguments
    let second := runGenerate first.disk arguments
    (g.SameFiles s first.disk second.disk ↔
        ∀ s' m', g.collect first.disk = .ok (s', some m') → m'.toJson = m.toJson) ∧
      (¬ g.Rescans first.disk s → g.specFiles first.disk s ≠ .error .tooDeep → second = first) ∧
      (g.specFiles first.disk s = .error .tooDeep →
        second = { disk := first.disk, failure := some .tooDeep }) := by
  intro first second
  obtain ⟨hrequest, hwet, hcollect⟩ := written?_eq_some hwritten
  have hfirst : first = g.publish disk s m := by
    simp [first, runGenerate_eq hrequest, Generate.run, hcollect, hwet]
  have hfailure : (g.publish disk s m).failure = none := hfirst ▸ failure_of_exitCode hexit
  obtain ⟨after, paths, hwrite⟩ := Generate.exists_write_of_publish hfailure
  have hdisk : first.disk = after := by rw [hfirst, Generate.publish_eq hwrite]
  obtain ⟨json, hjson, hpublished⟩ := Output.published_of_write hwrite
  have hran : g.Ran s m json disk after paths := by
    obtain ⟨given, _, _, hgiven⟩ := request?_eq_some.1 hrequest
    have hprinted : Json.render after.room.print m.toJson = .ok json := by
      rw [hpublished.grows.room, hjson]
    exact ⟨hcollect, hwet, hproper.top, rooted_of_ofGiven hproper hgiven, hprinted, hpublished⟩
  have hsecond : second = g.run after := by
    have hagain := request?_grows hran.published.grows hrequest
    simp only [second, hdisk, runGenerate_eq hagain]
  rw [show (runGenerate disk arguments).disk = after from hdisk] at hconfig
  rw [hdisk, hsecond]
  refine ⟨hran.sameFiles_iff hconfig, fun hrescans hdepth => ?_, hran.run_eq_tooDeep hconfig⟩
  rw [hran.run_eq hconfig hrescans hdepth, hfirst, Generate.publish_eq hwrite,
    Generate.publish_eq (Output.write_of_published hran.published hran.printed)]

/-- A project whose manifest stands apart from its tests. -/
theorem rerun_iff_apart :
    let spec := encodeUtf8 "it(\"api.get('/x')\", 0)".toList
    let disk : Disk := { top := .dir [(['t'], .dir [("a.ts".toList, .file spec)])] }
    let arguments := ["-t", "t", "-o", "o"].map String.toList
    let first := runGenerate disk arguments
    disk.Proper ∧ first.exitCode = 0 ∧ (written? disk arguments).isSome ∧
      runGenerate first.disk arguments = first := by
  intro spec disk arguments first
  have hproper : disk.Proper := ⟨by decide, _, rfl⟩
  have hexit : first.exitCode = 0 := by decide +kernel
  have hplain : (written? disk arguments).any (fun (g, s, _) => g.config.isNone &&
      (g.specFiles first.disk s).toOption.isSome &&
      (Output.formats s.withJson s.withTs).all fun format =>
        !Discovery.isSpecFile s.suffixes format.fileName) = true := by decide +kernel
  obtain ⟨⟨g, s, m⟩, hwritten, hplain⟩ := Option.any_eq_true _ _ |>.1 hplain
  simp only [Bool.and_eq_true, Option.isNone_iff_eq_none, List.all_eq_true,
    Bool.not_eq_true'] at hplain
  obtain ⟨⟨hnone, hfound⟩, hnames⟩ := hplain
  have hconfig : ¬ g.Overwrites first.disk s := by
    rintro ⟨path, hpath, _⟩
    rw [hnone] at hpath
    cases hpath
  have hrescans : ¬ g.Rescans first.disk s := by
    rintro ⟨format, hformat, hspec, _⟩
    rw [hnames format hformat] at hspec
    cases hspec
  have hdepth : g.specFiles first.disk s ≠ .error .tooDeep := by
    intro htooDeep
    rw [htooDeep] at hfound
    cases hfound
  refine ⟨hproper, hexit, by rw [hwritten]; rfl, ?_⟩
  exact (rerun_iff hproper hexit hwritten hconfig).2.1 hrescans hdepth

/-- A manifest that is written among the tests of a project whose spec files end like it. The title
of a test quotes a call, so that the second run finds a call in the first one's file. -/
theorem rerun_changes_manifest :
    let spec := encodeUtf8 "it(\"api.get('/x')\", 0)".toList
    let settings := encodeUtf8 "suffixes: [.js]".toList
    let tests : Tree := .dir [(['s'], .dir [("a.js".toList, .file spec)])]
    let disk : Disk :=
      { top := .dir [(['t'], tests), ("k6endpoints.yaml".toList, .file settings)] }
    let arguments := ["-t", "t", "-o", "t"].map String.toList
    let first := runGenerate disk arguments
    let second := runGenerate first.disk arguments
    let manifest := [['t'], Output.Format.js.fileName]
    first.exitCode = 0 ∧ second.disk.top.fileAt? manifest ≠ first.disk.top.fileAt? manifest := by
  decide +kernel

end EndpointManifest.CommandLine
