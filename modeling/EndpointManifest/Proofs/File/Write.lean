import EndpointManifest.Proofs.Except
import EndpointManifest.Proofs.File.Disk

/-! Making directories and writing files. Each step puts one node at one location whose parent is a
directory; so a disk only grows, and what was made or written is there afterwards. -/

namespace EndpointManifest.Disk

open EndpointManifest.Tree

variable {disk made : Disk} {path : Path} {above : List Text} {name : Text} {parent : List Text}

theorem follow_name {tree : Tree} {entries : List (Text × Tree)}
    (hdir : tree.get? parent = some (.dir entries)) (hdot : name ≠ ['.'])
    (hdots : name ≠ ['.', '.']) :
    follow tree parent [name] =
      if byteSize name > maxNameSize then .error .nameTooLong
      else if (entries.lookup name).isSome then .ok (parent ++ [name]) else .error .notFound := by
  rw [follow, hdir]
  simp only [hdot, hdots, if_false]
  rfl

theorem eq_of_follow_name {tree : Tree} {location : List Text} (hname : Path.IsName name)
    (h : follow tree parent [name] = .ok location) : location = parent ++ [name] := by
  rw [follow] at h
  split at h
  · rw [if_neg hname.ne_dot, if_neg hname.ne_dots] at h
    split at h
    · cases h
    · split at h
      · exact (Except.ok.inj h).symm
      · cases h
  · cases h
  · cases h

theorem locate_eq_bind (hparts : path.parts = above ++ [name]) :
    disk.locate path =
      (disk.followPart path above).bind fun reached => follow disk.top reached [name] := by
  unfold locate followPart
  split
  · rfl
  · rw [hparts, follow_append]

theorem locate_concat (hparts : path.parts = above ++ [name])
    (h : disk.followPart path above = .ok parent) :
    disk.locate path = follow disk.top parent [name] := by
  rw [locate_eq_bind hparts, h]
  rfl

theorem stat_name {entries : List (Text × Tree)} (hparts : path.parts = above ++ [name])
    (hreach : disk.followPart path above = .ok parent)
    (hdir : disk.top.get? parent = some (.dir entries)) (hdot : name ≠ ['.'])
    (hdots : name ≠ ['.', '.']) :
    disk.stat path =
      if byteSize name > maxNameSize then .error .nameTooLong
      else (disk.top.get? (parent ++ [name])).elim (.error .notFound) .ok := by
  have hlocate := locate_concat hparts hreach
  rw [follow_name hdir hdot hdots, ← get?_concat hdir] at hlocate
  by_cases hsize : byteSize name > maxNameSize
  · rw [if_pos hsize] at hlocate ⊢
    exact stat_of_locate_error hlocate
  · rw [if_neg hsize] at hlocate ⊢
    cases hnode : disk.top.get? (parent ++ [name]) with
    | none =>
      rw [hnode] at hlocate
      exact stat_of_locate_error hlocate
    | some node =>
      rw [hnode] at hlocate
      exact stat_eq_ok.2 ⟨_, hlocate, hnode⟩

theorem locateParent_eq_ok (hparts : path.parts = above ++ [name]) {last : Text} :
    disk.locateParent path = .ok (parent, last) ↔
      last = name ∧ disk.followPart path above = .ok parent ∧ disk.top.DirAt parent ∧
        byteSize name ≤ maxNameSize := by
  have habove : path.parts.dropLast = above := by rw [hparts, List.dropLast_concat]
  have hname : path.name = name := by rw [Path.name, hparts, List.getLast?_concat, Option.getD_some]
  unfold locateParent
  rw [habove, hname, bind_eq_ok]
  constructor
  · rintro ⟨location, hfollow, h⟩
    split at h
    · next entries hdir =>
      split at h
      · cases h
      · next hsize =>
        obtain ⟨rfl, rfl⟩ := Prod.mk.inj (Except.ok.inj h)
        exact ⟨rfl, hfollow, ⟨entries, hdir⟩, Nat.not_lt.1 hsize⟩
    · cases h
    · cases h
  · rintro ⟨rfl, hfollow, ⟨entries, hdir⟩, hsize⟩
    refine ⟨parent, hfollow, ?_⟩
    simp only [hdir, Nat.not_lt.2 hsize, if_false]
    rfl

structure Makes (disk : Disk) (path : Path) (above : List Text) (name : Text)
    (parent : List Text) : Prop where
  parts : path.parts = above ++ [name]
  reached : disk.followPart path above = .ok parent
  dir : disk.top.DirAt parent
  ne_dot : name ≠ ['.']
  ne_dots : name ≠ ['.', '.']
  size : byteSize name ≤ maxNameSize
  free : disk.top.get? (parent ++ [name]) = none

theorem makeDir_eq_ok (h : disk.makeDir path = .ok made) :
    ∃ above name parent, Makes disk path above name parent ∧
      made = { disk with top := put (.dir []) (parent ++ [name]) disk.top } := by
  unfold makeDir at h
  split at h
  · cases h
  · next hstat =>
    obtain ⟨⟨parent, last⟩, hparent, h⟩ := bind_eq_ok.1 h
    rcases List.eq_nil_or_concat path.parts with hnil | ⟨above, name, hparts⟩
    · -- a path without parts leads to where it starts, and that is no directory to make one in
      unfold locateParent at hparent
      obtain ⟨location, hfollow, hparent⟩ := bind_eq_ok.1 hparent
      split at hparent
      · next entries hdir =>
        have hlocate : disk.locate path = .ok location := by
          rw [locate, ← hfollow, hnil, List.dropLast_nil]
        rw [stat_eq_ok.2 ⟨location, hlocate, hdir⟩] at hstat
        cases hstat
      · cases hparent
      · cases hparent
    · rw [List.concat_eq_append] at hparts
      obtain ⟨rfl, hfollow, hdir, hsize⟩ := (locateParent_eq_ok hparts).1 hparent
      simp only at h
      split at h
      · cases h
      · next hdots =>
        obtain ⟨entries, hentries⟩ := hdir
        have hlocate := locate_concat hparts hfollow
        have hdot : last ≠ ['.'] := by
          rintro rfl
          have hself : disk.locate path = .ok parent := by
            rw [hlocate, follow, hentries]
            rfl
          rw [stat_eq_ok.2 ⟨parent, hself, hentries⟩] at hstat
          cases hstat
        rw [stat_name hparts hfollow hentries hdot hdots, if_neg (Nat.not_lt.2 hsize)] at hstat
        have hfree : disk.top.get? (parent ++ [last]) = none := by
          cases hget : disk.top.get? (parent ++ [last]) with
          | none => rfl
          | some node =>
            rw [hget] at hstat
            cases hstat
        refine ⟨above, last, parent, ?_, (Except.ok.inj h).symm⟩
        exact ⟨hparts, hfollow, ⟨entries, hentries⟩, hdot, hdots, hsize, hfree⟩
  · cases h

namespace Makes

theorem isName (h : Makes disk path above name parent)
    (hparts : ∀ part ∈ path.parts, Path.IsPart part) : Path.IsName name :=
  ⟨hparts name (by rw [h.parts]; simp), h.ne_dots⟩

theorem stat (h : Makes disk path above name parent) :
    { disk with top := put (.dir []) (parent ++ [name]) disk.top }.stat path = .ok (.dir []) := by
  have hgrows : Grows (fun _ => False) disk
      { disk with top := put (.dir []) (parent ++ [name]) disk.top } :=
    ⟨.put_dir h.dir h.free, rfl, rfl⟩
  have hnew : (put (.dir []) (parent ++ [name]) disk.top).get? (parent ++ [name]) =
      some (.dir []) := get?_put_self h.dir
  obtain ⟨entries, hdir⟩ := hgrows.top.dirs parent h.dir
  have hreached := (hgrows.followPart (by simp [h.reached])).trans h.reached
  rw [stat_name h.parts hreached hdir h.ne_dot h.ne_dots, if_neg (Nat.not_lt.2 h.size), hnew]
  rfl

end Makes

def LeadsToDir (disk : Disk) (path : Path) : Prop := ∃ entries, disk.stat path = .ok (.dir entries)

theorem isDir_iff : disk.isDir path = true ↔ hasNull path = false ∧ disk.LeadsToDir path := by
  unfold isDir
  rw [Option.any_eq_true]
  constructor
  · rintro ⟨node, hnode, hdir⟩
    obtain ⟨hnull, hstat⟩ := node?_eq_some.1 hnode
    cases node with
    | file octets => cases hdir
    | dir entries => exact ⟨hnull, entries, hstat⟩
  · rintro ⟨hnull, entries, hstat⟩
    exact ⟨.dir entries, node?_eq_some.2 ⟨hnull, hstat⟩, rfl⟩

/-- What making the directory at a path leaves behind, however it ends. -/
structure Made (disk : Disk) (path : Path) (result : Disk × Except FileError Unit) : Prop where
  grows : Grows (fun _ => False) disk result.1
  proper : disk.top.Proper → result.1.top.Proper
  dir : result.2 = .ok () → result.1.LeadsToDir path

theorem made_makeDir (hparts : ∀ part ∈ path.parts, Path.IsPart part)
    (h : disk.makeDir path = .ok made) : Made disk path (made, .ok ()) := by
  obtain ⟨above, name, parent, hmakes, rfl⟩ := makeDir_eq_ok h
  refine ⟨⟨.put_dir hmakes.dir hmakes.free, rfl, rfl⟩, ?_, fun _ => ⟨[], hmakes.stat⟩⟩
  intro hproper
  exact hproper.put hmakes.dir (hmakes.isName hparts) (.dir (by simp) (by simp) (by simp))

theorem made_settle (hparts : ∀ part ∈ path.parts, Path.IsPart part) :
    Made disk path (disk.settle path (disk.makeDir path)) := by
  unfold settle
  split
  · next made hmade => exact made_makeDir hparts hmade
  · split
    · next hdir =>
      rw [Bool.and_eq_true] at hdir
      exact ⟨.refl _ disk, id, fun _ => (isDir_iff.1 hdir.2).2⟩
    · exact ⟨.refl _ disk, id, nofun⟩

theorem made_makeDirsFrom (anchor : Anchor) {parts : List Text}
    (hparts : ∀ part ∈ parts, Path.IsPart part) (disk : Disk) (levels : Nat) :
    Made disk ⟨anchor, parts.reverse⟩ (makeDirsFrom anchor disk levels parts) := by
  induction parts generalizing levels with
  | nil =>
    cases levels with
    | zero => exact ⟨.refl _ disk, id, nofun⟩
    | succ levels => exact made_settle (by simp)
  | cons part parts ih =>
    cases levels with
    | zero => exact ⟨.refl _ disk, id, nofun⟩
    | succ levels =>
      have hall : ∀ p ∈ (part :: parts).reverse, Path.IsPart p := by
        intro p hp
        exact hparts p (List.mem_reverse.1 hp)
      have ih := ih fun p hp => hparts p (List.mem_cons_of_mem _ hp)
      rw [makeDirsFrom]
      split
      · have habove := ih levels
        split
        · next heq =>
          rw [heq] at habove
          exact ⟨habove.grows, habove.proper, nofun⟩
        · next disk' heq =>
          rw [heq] at habove
          have hlast : Made disk' ⟨anchor, (part :: parts).reverse⟩ _ := made_settle hall
          exact ⟨habove.grows.trans hlast.grows, hlast.proper ∘ habove.proper, hlast.dir⟩
      · exact made_settle hall

theorem made_makeDirs (disk : Disk) (t : Text) :
    Made disk (.ofText t) (disk.makeDirs (.ofText t)) := by
  unfold makeDirs
  split
  · exact ⟨.refl _ disk, id, nofun⟩
  · have hall : ∀ part ∈ (Path.ofText t).parts.reverse, Path.IsPart part := by
      intro part hpart
      exact Path.isPart_of_mem_ofText (List.mem_reverse.1 hpart)
    have h := made_makeDirsFrom (Path.ofText t).anchor hall disk disk.room.make
    rwa [List.reverse_reverse] at h

theorem makeDirs_of_dir (hnull : hasNull path = false) (h : disk.LeadsToDir path) :
    disk.makeDirs path = (disk, .ok ()) := by
  have hmake : disk.makeDir path = .error .exists := by
    obtain ⟨entries, hstat⟩ := h
    rw [makeDir, hstat]
    rfl
  have hsettle : disk.settle path (disk.makeDir path) = (disk, .ok ()) := by
    simp [hmake, settle, isDir_iff.2 ⟨hnull, h⟩]
  obtain ⟨levels, hlevels⟩ : ∃ levels, (disk.room.make : Nat) = levels + 1 :=
    ⟨disk.room.make - 1, by have := disk.room.make.2; omega⟩
  rw [makeDirs, hnull, if_neg Bool.false_ne_true, ← hsettle, hlevels]
  obtain ⟨anchor, parts⟩ := path
  cases hrev : parts.reverse with
  | nil =>
    obtain rfl := List.reverse_eq_nil_iff.1 hrev
    rfl
  | cons part above =>
    have hpath : (part :: above).reverse = parts := by rw [← hrev, List.reverse_reverse]
    rw [makeDirsFrom, hpath, hmake]

/-- A file stands below the directory that the parts above it lead to. -/
structure HoldsFile (disk : Disk) (path : Path) (parent : List Text) (name : Text) : Prop where
  named : hasNull path = false
  located : disk.locateParent path = .ok (parent, name)
  file : (disk.top.fileAt? (parent ++ [name])).isSome

namespace HoldsFile

variable {written : List Text → Prop} {after : Disk}

theorem locate (h : HoldsFile disk path parent name) (hparts : path.parts = above ++ [name])
    (hname : Path.IsName name) : disk.locate path = .ok (parent ++ [name]) := by
  obtain ⟨_, hreached, ⟨entries, hdir⟩, hsize⟩ := (locateParent_eq_ok hparts).1 h.located
  obtain ⟨octets, hfile⟩ := Option.isSome_iff_exists.1 h.file
  rw [locate_concat hparts hreached, follow_name hdir hname.ne_dot hname.ne_dots,
    if_neg (Nat.not_lt.2 hsize), ← get?_concat hdir, fileAt?_eq_some.1 hfile]
  rfl

theorem eq_of_locate {dir : Path} {location : List Text} (h : HoldsFile disk path parent name)
    (hparts : path.parts = dir.parts ++ [name]) (hanchor : path.anchor = dir.anchor)
    (hdir : disk.locate dir = .ok location) : parent = location := by
  obtain ⟨_, hreached, _⟩ := (locateParent_eq_ok hparts).1 h.located
  have hstart : disk.startOf path = disk.startOf dir := by
    rw [startOf, startOf, Path.isAbsolute, Path.isAbsolute, hanchor]
  unfold Disk.locate at hdir
  unfold followPart at hdir hreached
  split at hdir
  · cases hdir
  · split at hreached
    · cases hreached
    · rw [hstart, hdir] at hreached
      exact (Except.ok.inj hreached).symm

theorem grows (h : HoldsFile disk path parent name) (hparts : path.parts = above ++ [name])
    (hgrows : Grows written disk after) : HoldsFile after path parent name := by
  obtain ⟨_, hreached, hdir, hsize⟩ := (locateParent_eq_ok hparts).1 h.located
  refine ⟨h.named, (locateParent_eq_ok hparts).2 ⟨rfl, ?_, hgrows.top.dirs _ hdir, hsize⟩,
    hgrows.top.files _ h.file⟩
  rw [hgrows.followPart (by simp [hreached]), hreached]

theorem writeBytes (h : HoldsFile disk path parent name) (octets : List UInt8) :
    disk.writeBytes path octets =
      ({ disk with top := put (.file octets) (parent ++ [name]) disk.top }, .ok ()) := by
  obtain ⟨found, hfile⟩ := Option.isSome_iff_exists.1 h.file
  rw [Disk.writeBytes, h.named, if_neg Bool.false_ne_true]
  simp only [h.located, fileAt?_eq_some.1 hfile]

end HoldsFile

/-- What a write that goes through leaves behind. -/
theorem writeBytes_eq_ok {after : Disk} {octets : List UInt8}
    (hparts : path.parts = above ++ [name]) (hname : Path.IsName name)
    (h : disk.writeBytes path octets = (after, .ok ())) :
    ∃ parent, Grows (· = parent ++ [name]) disk after ∧
      (disk.top.Proper → after.top.Proper) ∧ HoldsFile after path parent name ∧
      after.top.get? (parent ++ [name]) = some (.file octets) := by
  unfold writeBytes at h
  split at h
  · cases h
  · next hnull =>
    split at h
    · cases h
    · next parent last hparent =>
      obtain ⟨rfl, hreached, hdir, hsize⟩ := (locateParent_eq_ok hparts).1 hparent
      simp only at h
      split at h
      · cases h
      · next hnotDir =>
        obtain rfl := (Prod.mk.inj h).1
        have hfree : ¬ disk.top.DirAt (parent ++ [last]) :=
          fun ⟨entries, hget⟩ => hnotDir entries hget
        have hgrows : Grows (· = parent ++ [last]) disk
            { disk with top := put (.file octets) (parent ++ [last]) disk.top } :=
          ⟨.put_file hdir hfree, rfl, rfl⟩
        have hnew : (put (.file octets) (parent ++ [last]) disk.top).get? (parent ++ [last]) =
            some (.file octets) := get?_put_self hdir
        refine ⟨parent, hgrows, fun hproper => hproper.put hdir hname (.file octets), ?_, hnew⟩
        refine ⟨Bool.eq_false_iff.2 hnull, ?_, by rw [fileAt?_eq_some.2 hnew]; rfl⟩
        refine (locateParent_eq_ok hparts).2 ⟨rfl, ?_, hgrows.top.dirs _ hdir, hsize⟩
        rw [hgrows.followPart (by simp [hreached]), hreached]

theorem writeBytes_eq_error {after : Disk} {octets : List UInt8} {e : FileError}
    (h : disk.writeBytes path octets = (after, .error e)) : after = disk := by
  unfold writeBytes at h
  split at h
  · exact (Prod.mk.inj h).1.symm
  · split at h
    · exact (Prod.mk.inj h).1.symm
    · simp only at h
      split at h
      · exact (Prod.mk.inj h).1.symm
      · cases h

end EndpointManifest.Disk
