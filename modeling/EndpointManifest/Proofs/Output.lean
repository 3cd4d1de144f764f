import EndpointManifest.Output
import EndpointManifest.Proofs.File.Write
import EndpointManifest.Proofs.Json.RoundTrip

/-! What writing a manifest leaves behind: each of its files holds its rendering, and no other file
is changed. Writing the same manifest once more changes nothing. -/

namespace EndpointManifest

open Text

theorem Text.encodeUtf8_injective {s t : Text} (h : encodeUtf8 s = encodeUtf8 t) : s = t := by
  have hbytes : s.utf8Encode = t.utf8Encode := congrArg List.toByteArray h
  have hdecode := List.utf8Decode?_utf8Encode (l := s)
  rw [hbytes, List.utf8Decode?_utf8Encode] at hdecode
  simpa using hdecode.symm

namespace Output

/-- Each format puts a fixed text before the manifest and one behind it. -/
theorem exists_enclose_eq (format : Format) :
    ∃ front back, ∀ json, enclose json format = front ++ (json ++ back) := by
  cases format with
  | js => exact ⟨jsHeader, jsFooter, fun _ => List.append_assoc ..⟩
  | json => exact ⟨[], ['\n'], fun _ => rfl⟩
  | ts => exact ⟨tsHeader, tsFooter, fun _ => List.append_assoc ..⟩

theorem enclose_injective {json json' : Text} {format : Format}
    (h : enclose json format = enclose json' format) : json = json' := by
  obtain ⟨front, back, henclose⟩ := exists_enclose_eq format
  rwa [henclose, henclose, List.append_cancel_left_eq, List.append_cancel_right_eq] at h

namespace Format

theorem isName_fileName (format : Format) : Path.IsName format.fileName := by
  cases format <;> exact ⟨⟨by decide, by decide, by decide⟩, by decide⟩

theorem fileName_injective {format format' : Format} (h : format.fileName = format'.fileName) :
    format = format' := by
  revert h
  cases format <;> cases format' <;> decide

theorem parts_child (dir : Path) (format : Format) :
    (dir.child format.fileName).parts = dir.parts ++ [format.fileName] := by
  cases format <;> rfl

theorem anchor_child (dir : Path) (format : Format) :
    (dir.child format.fileName).anchor = dir.anchor := by
  cases format <;> rfl

end Format

/-- Where the files of some formats stand, when they are written into a directory. -/
def PlaceOf (dir : Path) (formats : List Format) (disk : Disk) (location : List Text) : Prop :=
  ∃ format ∈ formats, disk.locate (dir.child format.fileName) = .ok location

def Saved (json : Text) (dir : Path) (disk : Disk) (format : Format) : Prop :=
  ∃ parent, disk.HoldsFile (dir.child format.fileName) parent format.fileName ∧
    disk.top.get? (parent ++ [format.fileName]) = some (.file (encodeUtf8 (enclose json format)))

section Files

variable {json : Text} {dir : Path} {disk after : Disk} {formats : List Format}
  {paths : List Path}

theorem Saved.stat {format : Format} (h : Saved json dir disk format) :
    disk.stat (dir.child format.fileName) = .ok (.file (encodeUtf8 (enclose json format))) := by
  obtain ⟨parent, hfile, hget⟩ := h
  exact Disk.stat_eq_ok.2 ⟨_, hfile.locate (format.parts_child dir) format.isName_fileName, hget⟩

theorem format_eq_of_place {format format' : Format} {parent parent' : List Text}
    (h : parent ++ [format.fileName] = parent' ++ [format'.fileName]) : format = format' := by
  have hlast := congrArg List.getLast? h
  rw [List.getLast?_concat, List.getLast?_concat] at hlast
  exact Format.fileName_injective (Option.some.inj hlast)

/-- Writing goes through all formats or fails. When it goes through, every file is there with its
rendering, and the disk has only grown by these files. -/
theorem writeFiles_eq_ok (hnodup : formats.Nodup)
    (h : writeFiles json dir disk formats = (after, .ok paths)) :
    paths = formats.map (fun format => dir.child format.fileName) ∧
      disk.Grows (PlaceOf dir formats after) after ∧ (disk.top.Proper → after.top.Proper) ∧
      ∀ format ∈ formats, Saved json dir after format := by
  induction formats generalizing disk paths with
  | nil =>
    obtain ⟨rfl, hpaths⟩ := Prod.mk.inj h
    obtain rfl := Except.ok.inj hpaths
    exact ⟨rfl, .refl _ disk, id, by simp⟩
  | cons format formats ih =>
    obtain ⟨hnew, hnodup⟩ := List.nodup_cons.1 hnodup
    rw [writeFiles] at h
    split at h
    · cases h
    · next first hfirst =>
      split at h
      · cases h
      · next after rest hrest =>
        obtain ⟨rfl, hpaths⟩ := Prod.mk.inj h
        obtain rfl := Except.ok.inj hpaths
        have hparts := format.parts_child dir
        have hname := format.isName_fileName
        obtain ⟨parent, hgrows, hproper, hfile, hget⟩ := Disk.writeBytes_eq_ok hparts hname hfirst
        obtain ⟨rfl, hgrowsRest, hproperRest, hsaved⟩ := ih hnodup hrest
        have hfileAfter := hfile.grows hparts hgrowsRest
        have hlocate := hfileAfter.locate hparts hname
        have hapart : ¬ PlaceOf dir formats after (parent ++ [format.fileName]) := by
          rintro ⟨other, hother, hplace⟩
          obtain ⟨parent', hfile', _⟩ := hsaved other hother
          rw [hfile'.locate (other.parts_child dir) other.isName_fileName] at hplace
          obtain rfl := format_eq_of_place (Except.ok.inj hplace)
          exact hnew hother
        refine ⟨rfl, ?_, hproperRest ∘ hproper, List.forall_mem_cons.2 ⟨?_, hsaved⟩⟩
        · have hhere : ∀ location, location = parent ++ [format.fileName] →
              PlaceOf dir (format :: formats) after location := by
            rintro location rfl
            exact ⟨format, List.mem_cons_self .., hlocate⟩
          have hthere : ∀ location, PlaceOf dir formats after location →
              PlaceOf dir (format :: formats) after location := by
            rintro location ⟨other, hother, hplace⟩
            exact ⟨other, List.mem_cons_of_mem _ hother, hplace⟩
          exact (hgrows.mono hhere).trans (hgrowsRest.mono hthere)
        · exact ⟨parent, hfileAfter, hgrowsRest.top.get?_file hget hapart⟩

/-- However the writing ends, only files of the formats in the directory are new or changed. -/
theorem grows_writeFiles {parent : List Text} {result : Except FileError (List Path)}
    (hdir : disk.locate dir = .ok parent)
    (h : writeFiles json dir disk formats = (after, result)) :
    disk.Grows (fun location => ∃ format ∈ formats, location = parent ++ [format.fileName])
      after := by
  induction formats generalizing disk after result with
  | nil =>
    obtain ⟨rfl, _⟩ := Prod.mk.inj h
    exact .refl _ disk
  | cons format formats ih =>
    rw [writeFiles] at h
    split at h
    · next first e hfirst =>
      obtain rfl := Disk.writeBytes_eq_error hfirst
      obtain ⟨rfl, _⟩ := Prod.mk.inj h
      exact .refl _ first
    · next first hfirst =>
      obtain ⟨parent', hgrows, _, hfile, _⟩ :=
        Disk.writeBytes_eq_ok (format.parts_child dir) format.isName_fileName hfirst
      have hdir' : first.locate dir = .ok parent := (hgrows.locate (by simp [hdir])).trans hdir
      obtain rfl := hfile.eq_of_locate (format.parts_child dir) (format.anchor_child dir) hdir'
      have hhere : disk.Grows (fun location =>
          ∃ other ∈ format :: formats, location = parent' ++ [other.fileName]) first :=
        hgrows.mono fun _ hplace => ⟨format, List.mem_cons_self .., hplace⟩
      have hthere {last : Disk} {result : Except FileError (List Path)}
          (hrest : writeFiles json dir first formats = (last, result)) :
          disk.Grows (fun location =>
            ∃ other ∈ format :: formats, location = parent' ++ [other.fileName]) last := by
        refine hhere.trans ((ih hdir' hrest).mono ?_)
        rintro _ ⟨other, hother, hplace⟩
        exact ⟨other, List.mem_cons_of_mem _ hother, hplace⟩
      split at h
      · next last e hrest =>
        obtain ⟨rfl, _⟩ := Prod.mk.inj h
        exact hthere hrest
      · next last paths hrest =>
        obtain ⟨rfl, _⟩ := Prod.mk.inj h
        exact hthere hrest

theorem exists_writeFiles (h : ∀ format ∈ formats, ∃ parent,
      disk.HoldsFile (dir.child format.fileName) parent format.fileName) :
    ∃ after, writeFiles json dir disk formats =
      (after, .ok (formats.map fun format => dir.child format.fileName)) := by
  induction formats generalizing disk with
  | nil => exact ⟨disk, rfl⟩
  | cons format formats ih =>
    obtain ⟨parent, hfile⟩ := h format (List.mem_cons_self ..)
    have hwrite := hfile.writeBytes (encodeUtf8 (enclose json format))
    obtain ⟨_, hgrows, _⟩ :=
      Disk.writeBytes_eq_ok (format.parts_child dir) format.isName_fileName hwrite
    obtain ⟨after, hafter⟩ := ih fun other hother =>
      (h other (List.mem_cons_of_mem _ hother)).imp fun _ hfile' =>
        hfile'.grows (other.parts_child dir) hgrows
    refine ⟨after, ?_⟩
    rw [writeFiles, Disk.writeText, hwrite]
    simp only [hafter, List.map_cons]

theorem writeFiles_of_saved (h : ∀ format ∈ formats, Saved json dir disk format) :
    writeFiles json dir disk formats =
      (disk, .ok (formats.map fun format => dir.child format.fileName)) := by
  induction formats with
  | nil => rfl
  | cons format formats ih =>
    obtain ⟨parent, hfile, hget⟩ := h format (List.mem_cons_self ..)
    have ih := ih fun other hother => h other (List.mem_cons_of_mem _ hother)
    rw [writeFiles, Disk.writeText, hfile.writeBytes, Tree.put_of_get? hget]
    simp only [ih, List.map_cons]

end Files

theorem nodup_formats (withJson withTs : Bool) : (formats withJson withTs).Nodup := by
  revert withJson withTs
  decide

section Write

variable {features : Json} {json outDir : Text} {withJson withTs : Bool} {disk after : Disk}
  {paths : List Path}

/-- A manifest that is written whole. -/
structure Published (json outDir : Text) (withJson withTs : Bool) (before after : Disk)
    (paths : List Path) : Prop where
  paths : paths = (formats withJson withTs).map fun format =>
    (Path.ofText outDir).child format.fileName
  grows : before.Grows (PlaceOf (Path.ofText outDir) (formats withJson withTs) after) after
  proper : before.top.Proper → after.top.Proper
  named : Disk.hasNull (Path.ofText outDir) = false
  dir : after.LeadsToDir (Path.ofText outDir)
  saved : ∀ format ∈ formats withJson withTs, Saved json (Path.ofText outDir) after format

theorem published_of_write
    (h : write disk features outDir withJson withTs = (after, .ok paths)) :
    ∃ json, Json.render disk.room.print features = .ok json ∧
      Published json outDir withJson withTs disk after paths := by
  have hmade := Disk.made_makeDirs disk outDir
  rw [write] at h
  split at h
  · cases h
  · next json hjson =>
    refine ⟨json, hjson, ?_⟩
    simp only at h
    split at h
    · cases h
    · next middle hmiddle =>
      rw [hmiddle] at hmade
      split at h
      · cases h
      · next after written hwritten =>
        obtain ⟨rfl, hpaths⟩ := Prod.mk.inj h
        obtain rfl := Except.ok.inj hpaths
        obtain ⟨hpaths, hgrows, hproper, hsaved⟩ := writeFiles_eq_ok (nodup_formats _ _) hwritten
        refine ⟨hpaths, ?_, hproper ∘ hmade.proper, ?_, ?_, hsaved⟩
        · exact (hmade.grows.mono nofun).trans hgrows
        · rw [Disk.makeDirs] at hmiddle
          split at hmiddle
          · cases hmiddle
          · next hnull => exact Bool.eq_false_iff.2 hnull
        · obtain ⟨entries, hdir⟩ := hmade.dir rfl
          exact hgrows.stat_dir hdir

/-- However the writing ends, only files of the manifest in the directory that was asked for are new
or changed. -/
theorem grows_write {result : Except WriteError (List Path)}
    (h : write disk features outDir withJson withTs = (after, result)) :
    disk.Grows (fun location => ∃ format ∈ formats withJson withTs, ∃ parent,
      after.locate (Path.ofText outDir) = .ok parent ∧ location = parent ++ [format.fileName])
        after := by
  have hmade := Disk.made_makeDirs disk outDir
  rw [write] at h
  split at h
  · obtain ⟨rfl, _⟩ := Prod.mk.inj h
    exact .refl _ disk
  next json hjson =>
  simp only at h
  split at h
  · next middle e hmiddle =>
    rw [hmiddle] at hmade
    obtain ⟨rfl, _⟩ := Prod.mk.inj h
    exact hmade.grows.mono nofun
  · next middle hmiddle =>
    rw [hmiddle] at hmade
    obtain ⟨entries, hdir⟩ := hmade.dir rfl
    obtain ⟨parent, hlocate, _⟩ := Disk.stat_eq_ok.1 hdir
    have hfiles {last : Disk} {result : Except FileError (List Path)}
        (hlast : writeFiles json (Path.ofText outDir) middle (formats withJson withTs) =
          (last, result)) :
        disk.Grows (fun location => ∃ format ∈ formats withJson withTs, ∃ parent,
          last.locate (Path.ofText outDir) = .ok parent ∧
            location = parent ++ [format.fileName]) last := by
      have hgrows := grows_writeFiles hlocate hlast
      have hlocate' := (hgrows.locate (by simp [hlocate])).trans hlocate
      refine (hmade.grows.mono nofun).trans (hgrows.mono ?_)
      rintro _ ⟨format, hformat, hplace⟩
      exact ⟨format, hformat, parent, hlocate', hplace⟩
    split at h
    · next last e hlast =>
      obtain ⟨rfl, _⟩ := Prod.mk.inj h
      exact hfiles hlast
    · next last paths hlast =>
      obtain ⟨rfl, _⟩ := Prod.mk.inj h
      exact hfiles hlast

theorem Published.place {before : Disk} {location : List Text}
    (h : Published json outDir withJson withTs before disk paths)
    (hplace : PlaceOf (Path.ofText outDir) (formats withJson withTs) disk location) :
    ∃ format ∈ formats withJson withTs, ∃ parent, disk.locate (Path.ofText outDir) = .ok parent ∧
      location = parent ++ [format.fileName] := by
  obtain ⟨format, hformat, hlocate⟩ := hplace
  obtain ⟨parent, hfile, _⟩ := h.saved format hformat
  have hparts := format.parts_child (Path.ofText outDir)
  obtain ⟨entries, hdir⟩ := h.dir
  obtain ⟨dir, hdir, _⟩ := Disk.stat_eq_ok.1 hdir
  obtain rfl := hfile.eq_of_locate hparts (format.anchor_child _) hdir
  rw [hfile.locate hparts format.isName_fileName] at hlocate
  exact ⟨format, hformat, parent, hdir, (Except.ok.inj hlocate).symm⟩

theorem Published.exists_write {before : Disk} {json' : Text}
    (h : Published json outDir withJson withTs before disk paths)
    (hprinted : Json.render disk.room.print features = .ok json') :
    ∃ after, write disk features outDir withJson withTs = (after, .ok paths) := by
  obtain ⟨after, hafter⟩ : ∃ after,
      writeFiles json' (Path.ofText outDir) disk (formats withJson withTs) = (after, .ok _) :=
    exists_writeFiles fun format hformat => (h.saved format hformat).imp fun _ hsaved => hsaved.1
  refine ⟨after, ?_⟩
  rw [write, hprinted]
  simp only [Disk.makeDirs_of_dir h.named h.dir, hafter, h.paths]

/-- Writing the same manifest once more changes nothing. -/
theorem write_of_published {before : Disk}
    (h : Published json outDir withJson withTs before disk paths)
    (hprinted : Json.render disk.room.print features = .ok json) :
    write disk features outDir withJson withTs = (disk, .ok paths) := by
  rw [write, hprinted]
  simp only [Disk.makeDirs_of_dir h.named h.dir, writeFiles_of_saved h.saved, h.paths]

end Write
end Output
end EndpointManifest
