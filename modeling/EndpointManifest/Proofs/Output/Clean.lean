import EndpointManifest.Proofs.File.Failure
import EndpointManifest.Proofs.Output

/-! A manifest that cannot be written whole is written up to some file, and nothing else is touched.
The failure is reported, unless the manifest cannot be printed, or the path of its directory holds
U+0000 or leads through too many directories that are missing. -/

namespace EndpointManifest

open Text

namespace Output

theorem Format.hasNull_child (dir : Path) (format : Format) :
    Disk.hasNull (dir.child format.fileName) = Disk.hasNull dir := by
  have hname : format.fileName.contains '\x00' = false := by cases format <;> decide
  rw [Disk.hasNull, Disk.hasNull, format.parts_child, List.any_append, List.any_cons, hname]
  simp

/-- The files of some formats are written, and no more: no other file is new or changed, nor is that
of another format. -/
structure Written (json : Text) (dir : Path) (formats : List Format) (before after : Disk) :
    Prop where
  files : ∀ format ∈ formats, after.stat (dir.child format.fileName) =
    .ok (.file (encodeUtf8 (enclose json format)))
  others : ∀ location, ¬ PlaceOf dir formats after location →
    after.top.fileAt? location = before.top.fileAt? location
  rest : ∀ format ∉ formats, ∀ location,
    after.locate (dir.child format.fileName) = .ok location →
      after.top.fileAt? location = before.top.fileAt? location

/-- How writing a manifest may end: with all of its files, or with a reported failure and the files
of the first `k` formats; with none when its directory cannot be made. -/
inductive Clean (features : Json) (outDir : Text) (withJson withTs : Bool) (before : Disk) :
    Disk × Except WriteError (List Path) → Prop
  | whole {json : Text} {after : Disk}
      (printed : Json.render before.room.print features = .ok json)
      (h : Written json (.ofText outDir) (formats withJson withTs) before after) :
      Clean features outDir withJson withTs before
        (after, .ok ((formats withJson withTs).map fun format =>
          (Path.ofText outDir).child format.fileName))
  | part {json : Text} {after : Disk} {error : FileError}
      (printed : Json.render before.room.print features = .ok json)
      (reported : (WriteError.file outDir error).isReported = true) (k : Nat)
      (hk : k < (formats withJson withTs).length)
      (h : Written json (.ofText outDir) ((formats withJson withTs).take k) before after)
      (unmade : (before.makeDirs (.ofText outDir)).2 ≠ .ok () → k = 0) :
      Clean features outDir withJson withTs before (after, .error (.file outDir error))

section Files

variable {json : Text} {dir : Path} {before disk after : Disk} {formats : List Format}
  {paths : List Path} {e : FileError}

/-- A path to a file of one format does not lead to that of another. -/
theorem not_place_of_saved {format : Format} {location : List Text}
    (h : ∀ other ∈ formats, Saved json dir disk other) (hformat : format ∉ formats)
    (hlocate : disk.locate (dir.child format.fileName) = .ok location) :
    ¬ PlaceOf dir formats disk location := by
  rintro ⟨other, hother, hplace⟩
  obtain ⟨parent, hfile, _⟩ := h other hother
  rw [hfile.locate (other.parts_child dir) other.isName_fileName] at hplace
  rw [Disk.locate_eq_bind (format.parts_child dir)] at hlocate
  obtain ⟨reached, _, hlast⟩ := bind_eq_ok.1 hlocate
  rw [Disk.eq_of_follow_name format.isName_fileName hlast] at hplace
  obtain rfl := format_eq_of_place (Except.ok.inj hplace)
  exact hformat hother

/-- When writing fails, it has gone through up to some format, whose file cannot be written. -/
theorem writeFiles_eq_error (hnull : Disk.hasNull dir = false)
    (h : writeFiles json dir disk formats = (after, .error e)) :
    (∃ refusal shown, e = .refused refusal shown) ∧ ∃ k < formats.length, ∃ paths,
      writeFiles json dir disk (formats.take k) = (after, .ok paths) := by
  induction formats generalizing disk with
  | nil => cases h
  | cons format formats ih =>
    rw [writeFiles] at h
    split at h
    · next first e' hfirst =>
      obtain ⟨rfl, he⟩ := Prod.mk.inj h
      obtain rfl := Except.error.inj he
      obtain rfl := Disk.writeBytes_eq_error hfirst
      obtain ⟨refusal, he⟩ :=
        Disk.writeBytes_refused ((format.hasNull_child dir).trans hnull) hfirst
      exact ⟨⟨refusal, _, he⟩, 0, Nat.succ_pos _, [], rfl⟩
    · next first hfirst =>
      split at h
      · next last e' hrest =>
        obtain ⟨rfl, he⟩ := Prod.mk.inj h
        obtain rfl := Except.error.inj he
        obtain ⟨hrefused, k, hk, paths, hpaths⟩ := ih hrest
        refine ⟨hrefused, k + 1, Nat.succ_lt_succ hk, dir.child format.fileName :: paths, ?_⟩
        simp only [List.take_succ_cons, writeFiles, hfirst, hpaths]
      · cases h

/-- What writing files leaves behind, on a disk to which only directories have been added before. -/
theorem written_of_writeFiles (hnodup : formats.Nodup)
    (hbefore : before.Grows (fun _ => False) disk)
    (h : writeFiles json dir disk formats = (after, .ok paths)) :
    Written json dir formats before after := by
  obtain ⟨_, hgrows, _, hsaved⟩ := writeFiles_eq_ok hnodup h
  have hall := (hbefore.mono nofun).trans hgrows
  refine ⟨fun format hformat => (hsaved format hformat).stat, hall.top.others, ?_⟩
  intro format hformat location hlocate
  exact hall.top.others location (not_place_of_saved hsaved hformat hlocate)

end Files

section Write

variable {disk : Disk} {features : Json} {json outDir : Text} {withJson withTs : Bool}

theorem write_of_unprintable {e : Json.PrintError}
    (h : Json.render disk.room.print features = .error e) :
    write disk features outDir withJson withTs = (disk, .error (.unprintable e)) := by
  simp only [write, h]

theorem write_of_null (hprinted : Json.render disk.room.print features = .ok json)
    (hnull : '\x00' ∈ outDir) :
    write disk features outDir withJson withTs = (disk, .error (.file outDir .nullInPath)) := by
  have hmake : disk.makeDirs (.ofText outDir) = (disk, .error .nullInPath) := by
    rw [Disk.makeDirs, if_pos (Disk.hasNull_ofText.2 hnull)]
  simp only [write, hprinted, hmake]

theorem write_of_lacks (hprinted : Json.render disk.room.print features = .ok json)
    (hnull : '\x00' ∉ outDir) (h : disk.Lacks (.ofText outDir) disk.room.make) :
    write disk features outDir withJson withTs = (disk, .error (.file outDir .tooDeep)) := by
  have hmake := Disk.makeDirs_of_lacks (Bool.eq_false_iff.2 (mt Disk.hasNull_ofText.1 hnull)) h
  simp only [write, hprinted, hmake]

theorem not_clean_of_unreported {after : Disk} {error : WriteError}
    (h : error.isReported = false) :
    ¬ Clean features outDir withJson withTs disk (after, .error error) := by
  intro hclean
  cases hclean with
  | part _ reported =>
    rw [h] at reported
    cases reported

theorem clean_write (hprinted : Json.render disk.room.print features = .ok json)
    (hnull : '\x00' ∉ outDir) (hlacks : ¬ disk.Lacks (.ofText outDir) disk.room.make) :
    Clean features outDir withJson withTs disk
      (write disk features outDir withJson withTs) := by
  have hnull : Disk.hasNull (.ofText outDir) = false :=
    Bool.eq_false_iff.2 (mt Disk.hasNull_ofText.1 hnull)
  have hmade := Disk.made_makeDirs disk outDir
  have hnodup := nodup_formats withJson withTs
  rw [write, hprinted]
  simp only
  split
  · next middle e hmiddle =>
    obtain ⟨refusal, shown, rfl⟩ := Disk.makeDirs_refused hnull hlacks hmiddle
    rw [hmiddle] at hmade
    refine .part hprinted rfl 0 (by simp [formats]) ?_ fun _ => rfl
    exact written_of_writeFiles List.nodup_nil hmade.grows rfl
  · next middle hmiddle =>
    rw [hmiddle] at hmade
    split
    · next after e hfiles =>
      obtain ⟨⟨refusal, shown, rfl⟩, k, hk, paths, hpaths⟩ := writeFiles_eq_error hnull hfiles
      refine .part hprinted rfl k hk ?_ fun hunmade => absurd (by rw [hmiddle]) hunmade
      exact written_of_writeFiles (hnodup.sublist (List.take_sublist ..)) hmade.grows hpaths
    · next after paths hfiles =>
      obtain ⟨rfl, _⟩ := writeFiles_eq_ok hnodup hfiles
      exact .whole hprinted (written_of_writeFiles hnodup hmade.grows hfiles)

end Write

/-- A manifest that can be printed is written cleanly iff the path of its directory holds no U+0000
and does not end with too many missing directories. If it does, or if the manifest cannot be
printed, nothing is written or made, and the failure is not reported as one to write. -/
theorem write_clean_iff (disk : Disk) (features : Json) (outDir : Text) (withJson withTs : Bool) :
    let printed := ∃ json, Json.render disk.room.print features = .ok json
    (Clean features outDir withJson withTs disk (write disk features outDir withJson withTs) ↔
      printed ∧ '\x00' ∉ outDir ∧ ¬ disk.Lacks (.ofText outDir) disk.room.make) ∧
    (∀ e, write disk features outDir withJson withTs = (disk, .error (.unprintable e)) ↔
      Json.render disk.room.print features = .error e) ∧
    (write disk features outDir withJson withTs = (disk, .error (.file outDir .nullInPath)) ↔
      printed ∧ '\x00' ∈ outDir) ∧
    (write disk features outDir withJson withTs = (disk, .error (.file outDir .tooDeep)) ↔
      printed ∧ '\x00' ∉ outDir ∧ disk.Lacks (.ofText outDir) disk.room.make) := by
  intro printed
  cases hjson : Json.render disk.room.print features with
  | error e =>
    have hnot : ¬ printed := by simp [printed, hjson]
    have hunreported : (WriteError.unprintable e).isReported = false := rfl
    simpa [write_of_unprintable hjson, hnot, eq_comm] using not_clean_of_unreported hunreported
  | ok json =>
    have hprinted : printed := ⟨json, hjson⟩
    by_cases hnull : '\x00' ∈ outDir
    · have hunreported : (WriteError.file outDir .nullInPath).isReported = false := rfl
      simpa [write_of_null hjson hnull, hnull, hprinted] using not_clean_of_unreported hunreported
    · by_cases hlacks : disk.Lacks (.ofText outDir) disk.room.make
      · have hunreported : (WriteError.file outDir .tooDeep).isReported = false := rfl
        simpa [write_of_lacks hjson hnull hlacks, hnull, hlacks, hprinted] using
          not_clean_of_unreported hunreported
      · have hclean : Clean features outDir withJson withTs disk
            (write disk features outDir withJson withTs) := clean_write hjson hnull hlacks
        have hne {e : WriteError} (he : e.isReported = false) :
            write disk features outDir withJson withTs ≠ (disk, .error e) := by
          intro h
          rw [h] at hclean
          exact not_clean_of_unreported he hclean
        simpa [hclean, hnull, hlacks, hprinted] using ⟨fun e => hne rfl, hne rfl, hne rfl⟩

theorem byteSize_deep (m : Nat) :
    Disk.byteSize (join ['/'] (List.replicate (m + 1) ['a'])) = 2 * m + 1 := by
  induction m with
  | zero => rfl
  | succ m ih =>
    have hcons : join ['/'] (List.replicate (m + 2) ['a']) =
        ['a', '/'] ++ join ['/'] (List.replicate (m + 1) ['a']) := by
      simp [join, List.replicate_succ, List.intercalate_cons_cons]
    have hsize : Disk.byteSize ['a', '/'] = 2 := rfl
    rw [hcons, Disk.byteSize_append, ih, hsize]
    omega

theorem makeDir_deep {m : Nat} (hm : 2 * m + 3 ≤ Disk.maxPathSize) :
    Disk.makeDir {} ⟨.relative, List.replicate (m + 2) ['a']⟩ = .error .notFound := by
  have hsize : ¬ Disk.byteSize (join ['/'] (List.replicate (m + 2) ['a'])) > Disk.maxPathSize := by
    rw [byteSize_deep]
    omega
  have hmissing : ∀ parts, Disk.followPart {} ⟨.relative, List.replicate (m + 2) ['a']⟩
      (['a'] :: parts) = .error .notFound := by
    intro parts
    rw [Disk.followPart]
    exact if_neg hsize
  have hstat : Disk.stat {} ⟨.relative, List.replicate (m + 2) ['a']⟩ = .error .notFound :=
    Disk.stat_of_locate_error (hmissing _)
  have hparent : Disk.locateParent {} ⟨.relative, List.replicate (m + 2) ['a']⟩ =
      .error .notFound := by
    rw [Disk.locateParent, List.replicate_succ, List.dropLast_cons_of_ne_nil (by simp)]
    rw [← List.replicate_succ, hmissing]
    rfl
  rw [Disk.makeDir, hstat]
  simp only [hparent]
  rfl

theorem lacks_deep : Disk.Lacks {} ⟨.relative, List.replicate 1500 ['a']⟩ 980 := by
  refine ⟨by rw [List.length_replicate]; decide, fun i hi => ?_⟩
  obtain ⟨m, hm⟩ : ∃ m, 1500 - i = m + 2 := ⟨1498 - i, by omega⟩
  rw [List.rdrop, List.length_replicate, List.take_replicate, min_eq_left (Nat.sub_le ..), hm]
  exact makeDir_deep (by rw [Disk.maxPathSize]; omega)

/-- A directory so far down that making those above it one by one is given up: the manifest is not
written, and the failure is not one to write. -/
theorem write_clean_iff_deep :
    let outDir := join ['/'] (List.replicate 1500 ['a'])
    '\x00' ∉ outDir ∧ write {} (.obj []) outDir false false = ({}, .error (.file outDir .tooDeep)) ∧
      ¬ Clean (.obj []) outDir false false {} (write {} (.obj []) outDir false false) := by
  intro outDir
  have hparts : ∀ part ∈ List.replicate 1500 ['a'], Path.IsPart part := by
    intro part hpart
    rw [List.eq_of_mem_replicate hpart]
    exact ⟨by decide, by decide, by decide⟩
  have hdir : Path.ofText outDir = ⟨.relative, List.replicate 1500 ['a']⟩ :=
    Path.ofText_toText (p := ⟨.relative, List.replicate 1500 ['a']⟩) hparts
  have hnull : '\x00' ∉ outDir := by
    intro h
    rw [← Disk.hasNull_ofText, hdir, Disk.hasNull, List.any_eq_true] at h
    obtain ⟨part, hpart, hnull⟩ := h
    rw [List.eq_of_mem_replicate hpart] at hnull
    cases hnull
  have hwrite : write {} (.obj []) outDir false false = ({}, .error (.file outDir .tooDeep)) :=
    write_of_lacks rfl hnull (hdir ▸ lacks_deep)
  refine ⟨hnull, hwrite, ?_⟩
  rw [hwrite]
  exact not_clean_of_unreported rfl

end Output
end EndpointManifest
