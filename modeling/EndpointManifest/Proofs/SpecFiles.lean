import EndpointManifest.Proofs.Discovery.Depth
import Mathlib.Data.List.Nodup

/-! Discovery is exact, and the order in which directories are listed cannot be seen in it. What it
does not find, although nothing hides it, stands in a directory whose path has become too long; and
it finds nothing at all where directories lie too deep in one another. -/

namespace EndpointManifest

open Text

namespace Text

theorem endsWith_iff {ending t : Text} : endsWith ending t = true ↔ ending <:+ t := by
  rw [endsWith, List.isPrefixOf_iff_prefix, List.reverse_prefix]

end Text

namespace Discovery

variable {disk : Disk} {suffixes : List Text} {entries : List (Text × Tree)}

theorem isSpecFile_iff {name : Text} :
    isSpecFile suffixes name = true ↔
      (∃ suffix ∈ suffixes, suffix <:+ name) ∧ ¬ ".d.ts".toList <:+ name := by
  simp only [isSpecFile, Bool.and_eq_true, List.any_eq_true, Bool.not_eq_true', endsWith_iff,
    Bool.eq_false_iff, ne_eq]

theorem entersDir_iff {name : Text} :
    entersDir name = true ↔ name ∉ skippedDirs ∧ ¬ ['.'] <+: name := by
  simp only [entersDir, startsWith, Bool.and_eq_true, Bool.not_eq_true', Bool.eq_false_iff, ne_eq,
    List.contains_iff_mem, List.isPrefixOf_iff_prefix]

theorem specFiles_of_node? (suffixes : List Text) {path : Path}
    (h : disk.node? path = some (.dir entries)) :
    specFiles disk path suffixes =
      if isTooDeep disk.room.walk path (.dir entries) then .error .tooDeep
      else .ok (filesBelow path suffixes (.dir entries)) := by
  rw [specFiles, Disk.look_eq_some.2 (Disk.node?_eq_some.1 h)]

theorem mem_filesBelow_iff (h : Tree.Proper (.dir entries)) {path file : Path} :
    file ∈ filesBelow path suffixes (.dir entries) ↔
      ∃ dirs name, file = { path with parts := path.parts ++ (dirs ++ [name]) } ∧
        (Tree.fileAt? (.dir entries) (dirs ++ [name])).isSome ∧
        (∃ suffix ∈ suffixes, suffix <:+ name) ∧ ¬ ".d.ts".toList <:+ name ∧
        (∀ dir ∈ dirs, dir ∉ skippedDirs ∧ ¬ ['.'] <+: dir) ∧ isListed path dirs = true := by
  rw [mem_filesBelow]
  simp only [mem_below_iff h, IsFound, isSpecFile_iff, entersDir_iff]
  constructor
  · rintro ⟨_, ⟨dirs, name, rfl, hfile, hdirs, hsuffix, hdeclares⟩, hlisted, rfl⟩
    rw [List.dropLast_concat] at hlisted
    exact ⟨dirs, name, rfl, hfile, hsuffix, hdeclares, hdirs, hlisted⟩
  · rintro ⟨dirs, name, rfl, hfile, hsuffix, hdeclares, hdirs, hlisted⟩
    refine ⟨_, ⟨dirs, name, rfl, hfile, hdirs, hsuffix, hdeclares⟩, ?_, rfl⟩
    rwa [List.dropLast_concat]

theorem isPart_of_mem_filesBelow (h : Tree.Proper (.dir entries)) {path file : Path}
    (hpath : ∀ part ∈ path.parts, Path.IsPart part)
    (hfile : file ∈ filesBelow path suffixes (.dir entries)) :
    ∀ part ∈ file.parts, Path.IsPart part := by
  obtain ⟨dirs, name, rfl, hfile, _⟩ := (mem_filesBelow_iff h).1 hfile
  obtain ⟨octets, hoctets⟩ := Option.isSome_iff_exists.1 hfile
  have hnames := (h.get? (Tree.fileAt?_eq_some.1 hoctets)).1
  intro part hpart
  rcases List.mem_append.1 hpart with hpart | hpart
  · exact hpath part hpart
  · exact (hnames part hpart).toIsPart

theorem nodup_filesBelow (h : Tree.Proper (.dir entries)) (path : Path) :
    (filesBelow path suffixes (.dir entries)).Nodup := by
  refine List.Nodup.map ?_ ((nodup_below h).filter _)
  intro parts parts' heq
  exact List.append_cancel_left (congrArg Path.parts heq)

theorem nodup_toText_filesBelow (h : Tree.Proper (.dir entries)) {path : Path}
    (hpath : ∀ part ∈ path.parts, Path.IsPart part) :
    ((filesBelow path suffixes (.dir entries)).map Path.toText).Nodup := by
  refine List.Nodup.map_on ?_ (nodup_filesBelow h path)
  intro file hfile file' hfile' heq
  rw [← Path.ofText_toText (isPart_of_mem_filesBelow h hpath hfile), heq,
    Path.ofText_toText (isPart_of_mem_filesBelow h hpath hfile')]

theorem proper_of_node? (hproper : disk.top.Proper) {path : Path}
    (h : disk.node? path = some (.dir entries)) : Tree.Proper (.dir entries) := by
  obtain ⟨_, hstat⟩ := Disk.node?_eq_some.1 h
  obtain ⟨location, _, hget⟩ := Disk.stat_eq_ok.1 hstat
  exact (hproper.get? hget).2

/-- The same tree, listed in another order, has the same spec files in the same order, or is too
deep just as well. -/
theorem specFiles_relisted (hproper : disk.top.Proper) {top : Tree} (h : disk.top.Relisted top)
    {path : Path} (hroot : disk.node? path = some (.dir entries)) :
    specFiles { disk with top } path suffixes = specFiles disk path suffixes := by
  have hgrows : disk.Grows (fun _ => False) { disk with top } := ⟨h.grows hproper, rfl, rfl⟩
  obtain ⟨hnull, hstat⟩ := Disk.node?_eq_some.1 hroot
  obtain ⟨entries', hstat'⟩ := hgrows.stat_dir hstat
  obtain ⟨location, hlocate, hget⟩ := Disk.stat_eq_ok.1 hstat
  obtain ⟨location', hlocate', hget'⟩ := Disk.stat_eq_ok.1 hstat'
  rw [hgrows.locate (by simp [hlocate]), hlocate] at hlocate'
  obtain rfl := Except.ok.inj hlocate'
  have hentries := (hproper.get? hget).2
  have hentries' := ((h.proper hproper).get? hget').2
  have hbelow : below suffixes (.dir entries') = below suffixes (.dir entries) := by
    refine below_congr hentries' hentries fun parts => ?_
    have hfile := hgrows.top.others (location ++ parts) not_false
    rw [Tree.fileAt?_append hget, Tree.fileAt?_append hget'] at hfile
    rw [IsFound, IsFound, hfile]
  have hdeep : isTooDeep disk.room.walk path (.dir entries') =
      isTooDeep disk.room.walk path (.dir entries) := by
    refine isTooDeep_congr hentries' hentries fun dirs => ?_
    rw [← Tree.dirAt_append hget, ← Tree.dirAt_append hget']
    exact ⟨(h.symm.grows (h.proper hproper)).dirs _, hgrows.top.dirs _⟩
  rw [specFiles_of_node? _ hroot, specFiles_of_node? _ (Disk.node?_eq_some.2 ⟨hnull, hstat'⟩),
    filesBelow, filesBelow, hbelow, hdeep]

/-- Discovery gives every file with one of the suffixes that is no file of declarations and that no
directory below the root hides, once, and nothing else. A directory hides what it holds by its name,
or by a path too long to be listed. Discovery fails iff it comes to a directory more levels below
the root than it has room for. The root may have any name, and the directories may be listed in any
order. -/
theorem specFiles_exact (hproper : disk.top.Proper) {t : Text}
    (hroot : disk.node? (.ofText t) = some (.dir entries)) (suffixes : List Text) :
    let path := Path.ofText t
    ((∃ dirs, Enters path (.dir entries) dirs ∧ disk.room.walk < dirs.length) →
      specFiles disk path suffixes = .error .tooDeep) ∧
    ((∀ dirs, Enters path (.dir entries) dirs → dirs.length ≤ disk.room.walk) →
      ∃ files, specFiles disk path suffixes = .ok files ∧ (files.map Path.toText).Nodup ∧
        ∀ shown, shown ∈ files.map Path.toText ↔ ∃ dirs name,
          shown = Path.toText { path with parts := path.parts ++ (dirs ++ [name]) } ∧
          (Tree.fileAt? (.dir entries) (dirs ++ [name])).isSome ∧
          (∃ suffix ∈ suffixes, suffix <:+ name) ∧ ¬ ".d.ts".toList <:+ name ∧
          (∀ dir ∈ dirs, dir ∉ skippedDirs ∧ ¬ ['.'] <+: dir) ∧
          Disk.byteSize (walkText path dirs) ≤ Disk.maxPathSize) ∧
    ∀ top, disk.top.Relisted top →
      specFiles { disk with top } path suffixes = specFiles disk path suffixes := by
  intro path
  have hentries := proper_of_node? hproper hroot
  have hpath : ∀ part ∈ path.parts, Path.IsPart part := fun _ => Path.isPart_of_mem_ofText
  have hfound := specFiles_of_node? suffixes hroot
  refine ⟨fun hdeep => ?_, fun hdepth => ?_, fun top h => specFiles_relisted hproper h hroot⟩
  · rw [hfound, if_pos ((isTooDeep_iff hentries).2 hdeep)]
  · rw [(isTooDeep_eq_false_iff hentries).2 hdepth, if_neg Bool.false_ne_true] at hfound
    refine ⟨_, hfound, nodup_toText_filesBelow hentries hpath, fun shown => ?_⟩
    simp only [List.mem_map, mem_filesBelow_iff hentries, isListed, decide_eq_true_eq]
    constructor
    · rintro ⟨_, ⟨dirs, name, rfl, hfile⟩, rfl⟩
      exact ⟨dirs, name, rfl, hfile⟩
    · rintro ⟨dirs, name, rfl, hfile⟩
      exact ⟨_, ⟨dirs, name, rfl, hfile⟩, rfl⟩

/-- A root that would be hidden further down, listed in two ways. -/
theorem specFiles_exact_root :
    let empty : Tree := .file []
    let sub : Text × Tree := ("s".toList, .dir [("c.ts".toList, empty), ("d.d.ts".toList, empty)])
    let own : Text × Tree := ("b.ts".toList, empty)
    let hidden : Text × Tree := (".git".toList, .dir [("e.ts".toList, empty)])
    let disk : Disk := { top := .dir [("dist".toList, .dir [sub, own, hidden])] }
    let top : Tree := .dir [("dist".toList, .dir [own, sub, hidden])]
    let path := Path.ofText "dist".toList
    disk.top.Proper ∧ disk.node? path = some (.dir [sub, own, hidden]) ∧
      (∀ dirs, Enters path (.dir [sub, own, hidden]) dirs → dirs.length ≤ disk.room.walk) ∧
      disk.top.Relisted top ∧
      ∃ files, specFiles disk path [".ts".toList] = .ok files ∧
        specFiles { disk with top } path [".ts".toList] = .ok files ∧
        files.map Path.toText = ["dist/b.ts".toList, "dist/s/c.ts".toList] := by
  intro empty sub own hidden disk top path
  have hproper : disk.top.Proper := by decide
  have hroot : disk.node? path = some (.dir [sub, own, hidden]) := by rfl
  have hdepth : ∀ dirs, Enters path (.dir [sub, own, hidden]) dirs →
      dirs.length ≤ disk.room.walk :=
    (isTooDeep_eq_false_iff (proper_of_node? hproper hroot)).1 (by decide +kernel)
  have hrelisted : disk.top.Relisted top :=
    @Tree.Relisted.child [] [] _ _ _ (.perm (.swap own sub [hidden]))
  obtain ⟨_, hexact, hsame⟩ := specFiles_exact hproper hroot [".ts".toList]
  obtain ⟨files, hfiles, _⟩ := hexact hdepth
  refine ⟨hproper, hroot, hdepth, hrelisted, files, hfiles, (hsame top hrelisted).trans hfiles, ?_⟩
  have hlist : (specFiles disk path [".ts".toList]).toOption.map (·.map Path.toText) =
      some ["dist/b.ts".toList, "dist/s/c.ts".toList] := by decide +kernel
  rw [hfiles] at hlist
  exact Option.some.inj hlist

/-- Directories in one another, with a file in the innermost one. -/
def nested : (levels : Nat) → Tree
  | 0 => .dir [("a.ts".toList, .file [])]
  | levels + 1 => .dir [(['d'], nested levels)]

theorem get?_nested (levels m : Nat) :
    (nested (levels + m)).get? (List.replicate m ['d']) = some (nested levels) := by
  induction m with
  | zero => rfl
  | succ m ih => exact ih

theorem proper_nested : (levels : Nat) → (nested levels).Proper
  | 0 => by decide
  | levels + 1 => .dir (by simp) (by simpa using ⟨⟨by decide, by decide, by decide⟩, by decide⟩)
      (by simpa using proper_nested levels)

theorem enters_nested {levels m : Nat} (hm : m ≤ levels) (hsize : 2 * m < Disk.maxPathSize) :
    Enters {} (nested levels) (List.replicate m ['d']) := by
  obtain ⟨rest, rfl⟩ := Nat.exists_eq_add_of_le' hm
  refine ⟨?_, fun dir hdir => ?_, ?_⟩
  · rw [Tree.DirAt, get?_nested]
    cases rest <;> exact ⟨_, rfl⟩
  · rw [List.eq_of_mem_replicate hdir]
    decide
  · have hname : ∀ dir ∈ List.replicate (m - 1) ['d'], Disk.byteSize dir ≤ 1 := by
      intro dir hdir
      rw [List.eq_of_mem_replicate hdir]
      decide
    have hdot : Disk.byteSize (Path.toText {}) = 1 := rfl
    have hle := byteSize_walkText_le {} hname
    rw [List.length_replicate, hdot] at hle
    rw [isListed, decide_eq_true_eq, List.dropLast_replicate]
    omega

theorem isTooDeep_nested : isTooDeep 980 {} (nested 1000) = true := by
  refine (isTooDeep_iff (proper_nested 1000)).2 ⟨List.replicate 981 ['d'], ?_, ?_⟩
  · exact enters_nested (by decide) (by decide)
  · rw [List.length_replicate]
    decide

/-- Two files that nothing hides are missed. The way to the first is so long that the path of the
root may stand as it is, but not that of the directory in it; the second lies in a thousand
directories, whose paths are short enough. -/
theorem specFiles_misses :
    let t := (List.replicate 818 "d/../".toList).flatten ++ ['d']
    let entries := [("suben".toList, Tree.dir [("a.ts".toList, .file [])])]
    let long : Disk := { top := .dir [(['d'], .dir entries)] }
    let deep : Disk := { top := nested 1000 }
    (long.node? (.ofText t) = some (.dir entries) ∧
      IsFound [".ts".toList] (.dir entries) ["suben".toList, "a.ts".toList] ∧
      specFiles long (.ofText t) [".ts".toList] = .ok []) ∧
    deep.node? {} = some (nested 1000) ∧
      IsFound [".ts".toList] (nested 1000) (List.replicate 1000 ['d'] ++ ["a.ts".toList]) ∧
      specFiles deep {} [".ts".toList] = .error .tooDeep := by
  intro t entries long deep
  have hlocate : long.locate (.ofText t) = .ok [['d']] := by decide +kernel
  have hlong : long.node? (.ofText t) = some (.dir entries) :=
    Disk.node?_eq_some.2 ⟨by decide +kernel, Disk.stat_eq_ok.2 ⟨_, hlocate, rfl⟩⟩
  have hnone : filesBelow (.ofText t) [".ts".toList] (.dir entries) = [] := by decide +kernel
  have hshallow : isTooDeep long.room.walk (.ofText t) (.dir entries) = false := rfl
  have hdeep : deep.node? {} = some (nested 1000) :=
    Disk.node?_eq_some.2 ⟨rfl, Disk.stat_eq_ok.2 ⟨[], rfl, rfl⟩⟩
  have hshown : ∀ dir ∈ List.replicate 1000 ['d'], entersDir dir = true := by
    intro dir hdir
    rw [List.eq_of_mem_replicate hdir]
    decide
  refine ⟨⟨hlong, ?_, ?_⟩, hdeep, ?_, ?_⟩
  · exact ⟨["suben".toList], "a.ts".toList, rfl, by decide, by decide, by decide⟩
  · rw [specFiles_of_node? _ hlong, hshallow, hnone]
    rfl
  · refine ⟨_, "a.ts".toList, rfl, ?_, hshown, by decide⟩
    rw [Tree.fileAt?_append (get?_nested 0 1000)]
    rfl
  · have hgiven := isTooDeep_nested
    rw [nested] at hdeep hgiven
    rw [specFiles_of_node? _ hdeep, if_pos hgiven]

end Discovery
end EndpointManifest
