import EndpointManifest.CommandLine.Generate
import EndpointManifest.Proofs.Discovery
import EndpointManifest.Proofs.Output
import EndpointManifest.Proofs.Settings.Load

/-! What a run collects from a disk that has grown by the files of a manifest: the same settings,
and the same manifest unless discovery takes one of these files for a spec file, or is given up in
the directories that were made for them. -/

namespace EndpointManifest

open Text

namespace Settings

theorem isName_of_mem_fileNames {name : Text} (h : name ∈ fileNames) : Path.IsName name := by
  simp only [fileNames, List.map_cons, List.map_nil, List.mem_cons, List.not_mem_nil, or_false] at h
  rcases h with rfl | rfl | rfl <;> exact ⟨⟨by decide, by decide, by decide⟩, by decide⟩

theorem ne_fileName_of_mem_fileNames {name : Text} (h : name ∈ fileNames) (format : Output.Format) :
    name ≠ format.fileName := by
  simp only [fileNames, List.map_cons, List.map_nil, List.mem_cons, List.not_mem_nil, or_false] at h
  rcases h with rfl | rfl | rfl <;> cases format <;> decide

theorem child_of_mem_fileNames {name : Text} (h : name ∈ fileNames) (root : Path) :
    root.child name = { root with parts := root.parts ++ [name] } := by
  simp only [fileNames, List.map_cons, List.map_nil, List.mem_cons, List.not_mem_nil, or_false] at h
  rcases h with rfl | rfl | rfl <;> rfl

theorem mem_of_find_go {disk : Disk} {paths : List Path} {path : Path}
    (h : find.go disk paths = .ok (some path)) : path ∈ paths := by
  induction paths with
  | nil => cases h
  | cons first rest ih =>
    rw [find.go] at h
    obtain ⟨found, _, h⟩ := bind_eq_ok.1 h
    split at h
    · obtain rfl := Option.some.inj (Except.ok.inj h)
      exact List.mem_cons_self ..
    · exact List.mem_cons_of_mem _ (ih h)

end Settings

namespace CommandLine.Generate

variable {written : List Text → Prop} {before after : Disk} {g : Generate} {s : Settings}
  {m : Manifest} {root : List Text}

def OnlyManifests (written : List Text → Prop) : Prop :=
  ∀ location, written location →
    ∃ parent format, location = parent ++ [Output.Format.fileName format]

theorem not_written_of_mem_fileNames (hwritten : OnlyManifests written) {name : Text}
    (hname : name ∈ Settings.fileNames) (parent : List Text) : ¬ written (parent ++ [name]) := by
  intro h
  obtain ⟨parent', format, heq⟩ := hwritten _ h
  exact Settings.ne_fileName_of_mem_fileNames hname format
    (List.singleton_inj.1 (List.append_inj' heq rfl).2)

section

variable (hgrows : before.Grows written after) (hproper : before.top.Proper)
  (hroot : g.root = ⟨.root, root⟩) (hdir : before.top.DirAt root) (hwritten : OnlyManifests written)

include hgrows hproper hroot hdir hwritten

theorem find_grows {chosen : Option Path} (h : Settings.find before g.root = .ok chosen) :
    Settings.find after g.root = .ok chosen := by
  refine Settings.find_go ?_ h
  intro path hpath found hfound
  obtain ⟨name, hname, rfl⟩ := List.mem_map.1 hpath
  obtain ⟨entries, hget⟩ := hdir
  have hpath : g.root.child name = ⟨.root, root ++ [name]⟩ := by
    rw [Settings.child_of_mem_fileNames hname, hroot]
  exact hgrows.look_name hpath (hproper.get? hget).1 (Settings.isName_of_mem_fileNames hname)
    ⟨entries, hget⟩ (not_written_of_mem_fileNames hwritten hname root) hfound

omit hgrows in
theorem not_written_of_find {path : Path} (h : Settings.find before g.root = .ok (some path))
    {location : List Text} (hlocate : before.locate (.verbatim path.toText) = .ok location) :
    ¬ written location := by
  obtain ⟨name, hname, rfl⟩ := List.mem_map.1 (Settings.mem_of_find_go h)
  obtain ⟨entries, hget⟩ := hdir
  have hnames := (hproper.get? hget).1
  have hisName := Settings.isName_of_mem_fileNames hname
  have hpath : g.root.child name = ⟨.root, root ++ [name]⟩ := by
    rw [Settings.child_of_mem_fileNames hname, hroot]
  have hparts : ∀ part ∈ root ++ [name], Path.IsPart part := by
    intro part hpart
    rcases List.mem_append.1 hpart with hpart | hpart
    · exact (hnames part hpart).toIsPart
    · rw [List.mem_singleton.1 hpart]
      exact hisName.toIsPart
  rw [hpath, Path.verbatim_toText hparts (by simp), Disk.locate_eq_bind rfl] at hlocate
  obtain ⟨reached, hreached, hlocate⟩ := bind_eq_ok.1 hlocate
  have hfollow : before.followPart ⟨.root, root ++ [name]⟩ root = .ok root ∨
      before.followPart ⟨.root, root ++ [name]⟩ root = .error .nameTooLong :=
    Disk.followPart_names rfl hnames hget
  rcases hfollow with hshort | hlong
  · obtain rfl := Except.ok.inj (hshort.symm.trans hreached)
    rw [Disk.follow_name hget hisName.ne_dot hisName.ne_dots] at hlocate
    split at hlocate
    · cases hlocate
    · split at hlocate
      · obtain rfl := Except.ok.inj hlocate
        exact not_written_of_mem_fileNames hwritten hname root
      · cases hlocate
  · rw [hlong] at hreached
    cases hreached

end

theorem settings_grows (hgrows : before.Grows written after) (hproper : before.top.Proper)
    (hroot : g.root = ⟨.root, root⟩) (hdir : before.top.DirAt root)
    (hwritten : OnlyManifests written)
    (hconfig : ∀ path, g.config = some path → ∀ location,
      before.locate (.verbatim path) = .ok location → ¬ written location)
    (h : g.settings before = .ok s) : g.settings after = .ok s := by
  unfold settings at h ⊢
  obtain ⟨path, hpath, hload⟩ := bind_eq_ok.1 h
  have hload := mapError_eq_ok.1 hload
  cases hc : g.config with
  | some given =>
    rw [hc] at hpath
    obtain rfl := Except.ok.inj hpath
    refine bind_eq_ok.2 ⟨some given, rfl, mapError_eq_ok.2 (Settings.load_grows hgrows ?_ hload)⟩
    rintro p hp location
    obtain rfl := Option.some.inj hp
    exact hconfig given hc location
  | none =>
    rw [hc] at hpath
    cases hfind : Settings.find before g.root with
    | error e =>
      rw [settingsPath, hfind] at hpath
      cases hpath
    | ok chosen =>
      rw [settingsPath, hfind] at hpath
      obtain rfl := Except.ok.inj hpath
      have hfind' := find_grows hgrows hproper hroot hdir hwritten hfind
      refine bind_eq_ok.2 ⟨chosen.map Path.toText, ?_,
        mapError_eq_ok.2 (Settings.load_grows hgrows ?_ hload)⟩
      · rw [settingsPath, hfind']
      · rintro p hp location hlocate
        obtain ⟨path, rfl, rfl⟩ := Option.map_eq_some_iff.1 hp
        exact not_written_of_find hproper hroot hdir hwritten hfind hlocate

/-- Discovery takes a written file for a spec file. -/
def FindsWritten (written : List Text → Prop) (suffixes : List Text) (tests : List Text) : Prop :=
  ∃ dirs name, written (tests ++ (dirs ++ [name])) ∧
    (∀ dir ∈ dirs, Discovery.entersDir dir = true) ∧ Discovery.isSpecFile suffixes name = true

theorem specFiles_of_dir {disk : Disk} {tests : List Text} {entries : List (Text × Tree)}
    (hnull : Disk.hasNull (g.root.child s.testsDir) = false)
    (hlocate : disk.locate (g.root.child s.testsDir) = .ok tests)
    (hget : disk.top.get? tests = some (.dir entries)) :
    g.specFiles disk s =
      if Discovery.isTooDeep disk.room.walk (g.root.child s.testsDir) (.dir entries) then
        .error .tooDeep
      else .ok (Discovery.filesBelow (g.root.child s.testsDir) s.suffixes (.dir entries)) := by
  have hlook := Disk.look_eq_some.2 ⟨hnull, Disk.stat_eq_ok.2 ⟨tests, hlocate, hget⟩⟩
  cases hdeep : Discovery.isTooDeep disk.room.walk (g.root.child s.testsDir) (.dir entries) <;>
    simp [specFiles, Discovery.specFiles, hlook, hdeep]

theorem specFiles_eq_ok {disk : Disk} {files : List Path} (h : g.specFiles disk s = .ok files)
    (hne : files ≠ []) :
    ∃ tests entries, Disk.hasNull (g.root.child s.testsDir) = false ∧
      disk.locate (g.root.child s.testsDir) = .ok tests ∧
      disk.top.get? tests = some (.dir entries) ∧
      files = Discovery.filesBelow (g.root.child s.testsDir) s.suffixes (.dir entries) := by
  cases hlook : disk.look (g.root.child s.testsDir) with
  | error e =>
    rw [specFiles, Discovery.specFiles, hlook] at h
    cases h
  | ok found =>
    cases found with
    | none =>
      rw [specFiles, Discovery.specFiles, hlook] at h
      exact absurd (Except.ok.inj h).symm hne
    | some node =>
      cases node with
      | file octets =>
        rw [specFiles, Discovery.specFiles, hlook] at h
        cases h
      | dir entries =>
        obtain ⟨hnull, hstat⟩ := Disk.look_eq_some.1 hlook
        obtain ⟨tests, hlocate, hget⟩ := Disk.stat_eq_ok.1 hstat
        rw [specFiles_of_dir hnull hlocate hget] at h
        split at h
        · cases h
        · exact ⟨tests, entries, hnull, hlocate, hget, (Except.ok.inj h).symm⟩

/-- Discovery finds the same files, if it finds none that were written. -/
theorem below_grows (hgrows : before.Grows written after) (hproper : before.top.Proper)
    (hproper' : after.top.Proper) {suffixes tests : List Text}
    {entries entries' : List (Text × Tree)}
    (hget : before.top.get? tests = some (.dir entries))
    (hget' : after.top.get? tests = some (.dir entries'))
    (hfinds : ¬ FindsWritten written suffixes tests) :
    Discovery.below suffixes (.dir entries') = Discovery.below suffixes (.dir entries) := by
  apply Discovery.below_congr (hproper'.get? hget').2 (hproper.get? hget).2
  intro parts
  constructor
  · rintro ⟨dirs, name, rfl, hfile, hdirs, hspec⟩
    refine ⟨dirs, name, rfl, ?_, hdirs, hspec⟩
    have hother : ¬ written (tests ++ (dirs ++ [name])) := fun hw =>
      hfinds ⟨dirs, name, hw, hdirs, hspec⟩
    rw [← Tree.fileAt?_append hget'] at hfile
    rwa [← Tree.fileAt?_append hget, ← hgrows.top.others _ hother]
  · rintro ⟨dirs, name, rfl, hfile, hdirs, hspec⟩
    refine ⟨dirs, name, rfl, ?_, hdirs, hspec⟩
    rw [← Tree.fileAt?_append hget] at hfile
    rw [← Tree.fileAt?_append hget']
    exact hgrows.top.files _ hfile

theorem ofFile_congr {path : Path} (hparts : ∀ part ∈ path.parts, Path.IsPart part)
    (hsame : ∀ name, after.readBytes path name = before.readBytes path name) (reading : Reading) :
    Spec.ofFile after reading path.toText = Spec.ofFile before reading path.toText := by
  simp only [Spec.ofFile, Path.ofText_toText hparts, Disk.readText, hsame]

theorem ofFile_grows (hgrows : before.Grows written after) (hproper : before.top.Proper)
    {path : Path} (hparts : ∀ part ∈ path.parts, Path.IsPart part) {suffixes tests : List Text}
    {entries : List (Text × Tree)} (hlocate : before.locate path = .ok tests)
    (hget : before.top.get? tests = some (.dir entries))
    (hfinds : ¬ FindsWritten written suffixes tests) {parts : List Text}
    (hfound : parts ∈ Discovery.below suffixes (.dir entries)) (reading : Reading) :
    Spec.ofFile after reading (Path.toText { path with parts := path.parts ++ parts }) =
      Spec.ofFile before reading (Path.toText { path with parts := path.parts ++ parts }) := by
  have hentries := (hproper.get? hget).2
  obtain ⟨dirs, name, rfl, hfile, hdirs, hspec⟩ := (Discovery.mem_below_iff hentries).1 hfound
  obtain ⟨octets, hoctets⟩ := Option.isSome_iff_exists.1 hfile
  rw [← Tree.fileAt?_append hget] at hoctets
  have hnode := Tree.fileAt?_eq_some.1 hoctets
  have hnames : ∀ n ∈ dirs ++ [name], Path.IsName n := fun n hn =>
    (hproper.get? hnode).1 n (List.mem_append_right _ hn)
  have hall : ∀ part ∈ path.parts ++ (dirs ++ [name]), Path.IsPart part := by
    intro part hpart
    rcases List.mem_append.1 hpart with hpart | hpart
    · exact hparts part hpart
    · exact (hnames part hpart).toIsPart
  have hplace := Disk.locate_below hlocate hnames hnode
  refine ofFile_congr hall (fun shown => hgrows.readBytes ?_ ?_ shown) reading
  · rcases hplace with hplace | hlong
    · rw [Disk.stat_eq_ok.2 ⟨_, hplace, hnode⟩]
      simp
    · rw [Disk.stat_of_locate_error hlong]
      simp
  · intro location hlocation hw
    rcases hplace with hplace | hlong
    · obtain rfl := Except.ok.inj (hplace.symm.trans hlocation)
      exact hfinds ⟨dirs, name, hw, hdirs, hspec⟩
    · rw [hlong] at hlocation
      cases hlocation

theorem settings_of_collect {disk : Disk} {collected : Option Manifest}
    (h : g.collect disk = .ok (s, collected)) : g.settings disk = .ok s := by
  unfold collect at h
  obtain ⟨s', hsettings, h⟩ := bind_eq_ok.1 h
  obtain ⟨files, _, h⟩ := bind_eq_ok.1 h
  split at h
  · cases h
    exact hsettings
  · obtain ⟨m, _, h⟩ := bind_eq_ok.1 h
    cases h
    exact hsettings

theorem collect_eq_ok {disk : Disk} :
    g.collect disk = .ok (s, some m) ↔
      g.settings disk = .ok s ∧ ∃ files, g.specFiles disk s = .ok files ∧ files ≠ [] ∧
        Manifest.ofFiles disk s (files.map Path.toText) = .ok m := by
  unfold collect
  rw [bind_eq_ok]
  constructor
  · rintro ⟨s', hsettings, h⟩
    obtain ⟨files, hfiles, h⟩ := bind_eq_ok.1 h
    cases files with
    | nil => cases h
    | cons first rest =>
      obtain ⟨m', hm, h⟩ := bind_eq_ok.1 h
      cases h
      exact ⟨hsettings, first :: rest, hfiles, List.cons_ne_nil _ _, mapError_eq_ok.1 hm⟩
  · rintro ⟨hsettings, files, hfiles, hne, hm⟩
    refine ⟨s, hsettings, bind_eq_ok.2 ⟨files, hfiles, ?_⟩⟩
    cases files with
    | nil => exact absurd rfl hne
    | cons first rest => exact bind_eq_ok.2 ⟨m, mapError_eq_ok.2 hm, rfl⟩

/-- The same manifest is collected again, if discovery gets through and finds none of the written
files. -/
theorem collect_grows (hgrows : before.Grows written after) (hproper : before.top.Proper)
    (hproper' : after.top.Proper) (hparts : ∀ part ∈ g.root.parts, Path.IsPart part)
    (hfinds : ∀ tests, after.locate (g.root.child s.testsDir) = .ok tests →
      ¬ FindsWritten written s.suffixes tests)
    (hdepth : g.specFiles after s ≠ .error .tooDeep) (hsettings : g.settings after = .ok s)
    (h : g.collect before = .ok (s, some m)) : g.collect after = .ok (s, some m) := by
  obtain ⟨_, files, hfiles, hne, hm⟩ := collect_eq_ok.1 h
  obtain ⟨tests, entries, hnull, hlocate, hget, rfl⟩ := specFiles_eq_ok hfiles hne
  have hlocate' : after.locate (g.root.child s.testsDir) = .ok tests := by
    rw [hgrows.locate (by simp [hlocate]), hlocate]
  obtain ⟨entries', hget'⟩ := hgrows.top.dirs tests ⟨entries, hget⟩
  have hfinds := hfinds tests hlocate'
  have hfiles' := specFiles_of_dir (g := g) (s := s) hnull hlocate' hget'
  split at hfiles'
  · exact absurd hfiles' hdepth
  rw [Discovery.filesBelow, below_grows hgrows hproper hproper' hget hget' hfinds] at hfiles'
  refine collect_eq_ok.2 ⟨hsettings, _, hfiles', hne, ?_⟩
  rw [← hm, Manifest.ofFiles, Manifest.ofFiles]
  congr 2
  apply List.map_congr_left
  intro text htext
  obtain ⟨path, hpath, rfl⟩ := List.mem_map.1 htext
  obtain ⟨parts, hfound, _, rfl⟩ := Discovery.mem_filesBelow.1 hpath
  have hchild := Path.isPart_child hparts s.testsDir
  rw [ofFile_grows hgrows hproper hchild hlocate hget hfinds hfound]

end CommandLine.Generate
end EndpointManifest
