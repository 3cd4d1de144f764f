import EndpointManifest.Proofs.CommandLine.Rerun
import EndpointManifest.Proofs.Settings.Flags

/-! What `generate` leaves alone. Whatever the arguments and however the run ends, no file is
changed but those of the manifest, and none of these before everything else has succeeded. -/

namespace EndpointManifest.CommandLine

open Text

structure Requests (disk : Disk) (arguments : List Text) (given : Given GenerateOption)
    (g : Generate) : Prop where
  read : Switch.readAll generateSwitches true arguments = .ok given
  help : given.has .help = false
  request : Generate.ofGiven disk given = .ok g

/-- What keeps a run from writing. -/
inductive Stops (disk : Disk) (given : Given GenerateOption) (g : Generate) : Prop
  | settings {failure : Failure} (h : g.settings disk = .error failure)
  | noDirectory {s : Settings} (hsettings : g.settings disk = .ok s)
      (h : disk.isDir (g.root.child s.testsDir) = false)
  | search {s : Settings} {failure : Failure} (hsettings : g.settings disk = .ok s)
      (h : g.specFiles disk s = .error failure)
  | noSpecFiles {s : Settings} (hsettings : g.settings disk = .ok s)
      (h : g.specFiles disk s = .ok [])
  | dryRun (h : given.has .dryRun = true)
  | manifest {s : Settings} {files : List Path} {e : SpecError}
      (hsettings : g.settings disk = .ok s) (hfiles : g.specFiles disk s = .ok files)
      (h : Manifest.ofFiles disk s (files.map Path.toText) = .error e)

/-- A file of the manifest that the run is to write. -/
def Asked (disk : Disk) (given : Given GenerateOption) (g : Generate) : Output.Format → Prop
  | .js => True
  | .json => given.has .withJson = true ∨ given.has .all = true ∨ g.FileSays disk .withJson
  | .ts => given.has .withTs = true ∨ given.has .all = true ∨ g.FileSays disk .withTs

variable {disk : Disk} {arguments : List Text} {given : Given GenerateOption} {g : Generate}
  {s : Settings} {m : Manifest}

theorem Requests.request?_eq (h : Requests disk arguments given g) :
    request? disk arguments = some g :=
  request?_eq_some.2 ⟨given, h.read, h.help, h.request⟩

theorem Requests.flags (h : Requests disk arguments given g) :
    g.withJson = (given.has .withJson || given.has .all) ∧
      g.withTs = (given.has .withTs || given.has .all) ∧ g.dryRun = given.has .dryRun := by
  have hrequest := h.request
  simp only [Generate.ofGiven, bind_eq_ok] at hrequest
  obtain ⟨_, _, _, _, hrequest⟩ := hrequest
  cases hvalue : given.value? .root <;>
  · simp only [hvalue, bind_eq_ok] at hrequest
    obtain ⟨_, _, _, _, hrequest⟩ := hrequest
    obtain rfl := Except.ok.inj hrequest
    exact ⟨rfl, rfl, rfl⟩

theorem asked_of_mem_formats (h : Requests disk arguments given g) (hs : g.settings disk = .ok s)
    {format : Output.Format} (hformat : format ∈ Output.formats s.withJson s.withTs) :
    Asked disk given g format := by
  obtain ⟨hjson, hts, _⟩ := h.flags
  obtain ⟨hjsonIff, htsIff⟩ := Generate.flags_iff hs
  rw [hjson, Bool.or_eq_true, or_assoc] at hjsonIff
  rw [hts, Bool.or_eq_true, or_assoc] at htsIff
  simp only [Output.formats, List.mem_append, List.mem_singleton] at hformat
  rcases hformat with (rfl | hformat) | hformat
  · trivial
  · split at hformat
    · next hon =>
      obtain rfl := List.mem_singleton.1 hformat
      exact hjsonIff.1 hon
    · cases hformat
  · split at hformat
    · next hon =>
      obtain rfl := List.mem_singleton.1 hformat
      exact htsIff.1 hon
    · cases hformat

theorem Stops.written?_eq_none (h : Stops disk given g) (hg : Requests disk arguments given g) :
    written? disk arguments = none := by
  refine Option.eq_none_iff_forall_ne_some.2 ?_
  rintro ⟨g', s', m⟩ hwritten
  obtain ⟨hrequest, hwet, hcollect⟩ := written?_eq_some hwritten
  obtain rfl := Option.some.inj (hg.request?_eq.symm.trans hrequest)
  obtain ⟨hs', files', hfiles', hne, hm⟩ := Generate.collect_eq_ok.1 hcollect
  cases h with
  | settings h =>
    rw [h] at hs'
    cases hs'
  | noDirectory hsettings h =>
    obtain rfl := Except.ok.inj (hsettings.symm.trans hs')
    obtain ⟨tests, entries, hnull, hlocate, hget, _⟩ := Generate.specFiles_eq_ok hfiles' hne
    rw [Disk.isDir_iff.2 ⟨hnull, entries, Disk.stat_eq_ok.2 ⟨tests, hlocate, hget⟩⟩] at h
    cases h
  | search hsettings h =>
    obtain rfl := Except.ok.inj (hsettings.symm.trans hs')
    rw [h] at hfiles'
    cases hfiles'
  | noSpecFiles hsettings h =>
    obtain rfl := Except.ok.inj (hsettings.symm.trans hs')
    exact hne (Except.ok.inj (hfiles'.symm.trans h))
  | dryRun h =>
    rw [hg.flags.2.2, h] at hwet
    cases hwet
  | manifest hsettings hfiles h =>
    obtain rfl := Except.ok.inj (hsettings.symm.trans hs')
    obtain rfl := Except.ok.inj (hfiles.symm.trans hfiles')
    rw [h] at hm
    cases hm

theorem Generate.publish_disk (disk : Disk) (g : Generate) (s : Settings) (m : Manifest) :
    (g.publish disk s m).disk =
      (Output.write disk m.toJson (g.root.child s.outDir).toText s.withJson s.withTs).1 := by
  unfold Generate.publish
  split <;> next h => rw [h]

/-- The only files that a run changes are the manifest's, in the directory that the settings name:
the module in any case, the two others when they are asked for. A run that is stopped changes
nothing at all. -/
theorem runGenerate_frame (hproper : disk.Proper) (arguments : List Text) :
    let after := (runGenerate disk arguments).disk
    (∀ location, after.top.fileAt? location ≠ disk.top.fileAt? location →
      ∃ given g s format parent, Requests disk arguments given g ∧ g.settings disk = .ok s ∧
        Asked disk given g format ∧ after.locate (g.outPath s) = .ok parent ∧
        location = parent ++ [format.fileName]) ∧
    ∀ given g, Requests disk arguments given g → Stops disk given g → after = disk := by
  intro after
  refine ⟨fun location hchanged => ?_, fun given g hg hstops =>
    disk_of_not_written (hstops.written?_eq_none hg)⟩
  cases hwritten : written? disk arguments with
  | none => exact absurd (by rw [show after = disk from disk_of_not_written hwritten]) hchanged
  | some found =>
    obtain ⟨g, s, m⟩ := found
    obtain ⟨hrequest, hwet, hcollect⟩ := written?_eq_some hwritten
    obtain ⟨given, hread, hhelp, hgiven⟩ := request?_eq_some.1 hrequest
    have hg : Requests disk arguments given g := ⟨hread, hhelp, hgiven⟩
    have hs := Generate.settings_of_collect hcollect
    have hafter : after = (g.publish disk s m).disk := by
      simp [after, runGenerate_eq hrequest, Generate.run, hcollect, hwet]
    have hout : Path.ofText (g.root.child s.outDir).toText = g.outPath s :=
      Generate.ofText_outPath (isPart_of_rooted hproper.top (rooted_of_ofGiven hproper hgiven))
    have hwrite : Output.write disk m.toJson (g.root.child s.outDir).toText s.withJson s.withTs =
        (after, (Output.write disk m.toJson (g.root.child s.outDir).toText s.withJson s.withTs).2) := by
      rw [hafter, Generate.publish_disk]
    have hgrows := Output.grows_write hwrite
    rw [hout] at hgrows
    by_contra hnot
    refine hchanged (hgrows.top.others location ?_)
    rintro ⟨format, hformat, parent, hparent, hplace⟩
    exact hnot ⟨given, g, s, format, parent, hg, hs, asked_of_mem_formats hg hs hformat, hparent,
      hplace⟩

/-- A settings file that asks for the typed module, next to a plain file that is there already. The
same run with all files asked for, but dry. -/
theorem runGenerate_frame_typed :
    let spec := encodeUtf8 "it(\"api.get('/x')\", 0)".toList
    let settings := encodeUtf8 "with_ts: yes".toList
    let out : Tree := .dir [(Output.Format.json.fileName, .file [])]
    let disk : Disk := { top := .dir [(['t'], .dir [("a.ts".toList, .file spec)]), (['o'], out),
      ("k6endpoints.yaml".toList, .file settings)] }
    let arguments := ["-t", "t", "-o", "o"].map String.toList
    let dry := arguments ++ ["--all", "--dry-run"].map String.toList
    let after := (runGenerate disk arguments).disk
    let typed := [['o'], Output.Format.ts.fileName]
    disk.Proper ∧ after.top.fileAt? typed ≠ disk.top.fileAt? typed ∧
      (∃ given g s format parent, Requests disk arguments given g ∧ g.settings disk = .ok s ∧
        Asked disk given g format ∧ after.locate (g.outPath s) = .ok parent ∧
        typed = parent ++ [format.fileName]) ∧
      (∃ given g, Requests disk dry given g ∧ Stops disk given g) ∧
      (runGenerate disk dry).disk = disk := by
  intro spec settings out disk arguments dry after typed
  have hproper : disk.Proper := ⟨by decide, _, rfl⟩
  have hchanged : after.top.fileAt? typed ≠ disk.top.fileAt? typed := by decide +kernel
  have hrequest : (request? disk dry).isSome = true := by decide +kernel
  have hdry : (Switch.readAll generateSwitches true dry).toOption.all (·.has .dryRun) = true := by
    decide +kernel
  obtain ⟨g, hg⟩ := Option.isSome_iff_exists.1 hrequest
  obtain ⟨given, hread, hhelp, hgiven⟩ := request?_eq_some.1 hg
  have hstops : Stops disk given g := by
    rw [hread] at hdry
    exact .dryRun (by simpa [Except.toOption] using hdry)
  have hrequests : Requests disk dry given g := ⟨hread, hhelp, hgiven⟩
  exact ⟨hproper, hchanged, (runGenerate_frame hproper arguments).1 typed hchanged,
    ⟨given, g, hrequests, hstops⟩, (runGenerate_frame hproper dry).2 given g hrequests hstops⟩

end EndpointManifest.CommandLine
