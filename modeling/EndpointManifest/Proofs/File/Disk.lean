import EndpointManifest.File.Disk
import EndpointManifest.Proofs.File.Tree

/-! Following a path in a tree that has grown. What was reached is reached again, and what was
refused is refused again, but for what was missing. -/

namespace EndpointManifest.Disk

open EndpointManifest.Tree

theorem byteSize_append (t u : Text) : byteSize (t ++ u) = byteSize t + byteSize u := by
  simp [byteSize, Text.encodeUtf8]

theorem follow_append (tree : Tree) (location parts rest : List Text) :
    follow tree location (parts ++ rest) =
      (follow tree location parts).bind fun reached => follow tree reached rest := by
  induction parts generalizing location with
  | nil => rfl
  | cons part parts ih =>
    rw [List.cons_append, follow, follow]
    split
    · split
      · exact ih _
      · split
        · exact ih _
        · split
          · rfl
          · split
            · exact ih _
            · rfl
    · rfl
    · rfl

/-- Names lead to what stands at them, unless one is too long. -/
theorem follow_names {tree : Tree} {location names : List Text} {node : Tree}
    (hnames : ∀ name ∈ names, Path.IsName name) (h : tree.get? (location ++ names) = some node) :
    follow tree location names = .ok (location ++ names) ∨
      follow tree location names = .error .nameTooLong := by
  induction names generalizing location with
  | nil => exact .inl (by rw [List.append_nil]; rfl)
  | cons name names ih =>
    have hname := hnames name (List.mem_cons_self ..)
    obtain ⟨entries, hdir⟩ := dirAt_of_get?_append (List.cons_ne_nil name names) h
    rw [List.append_cons] at h ⊢
    have hsome : (entries.lookup name).isSome := by
      rw [get?_append] at h
      obtain ⟨child, hchild, _⟩ := Option.bind_eq_some_iff.1 h
      rw [get?_concat hdir] at hchild
      rw [hchild, Option.isSome_some]
    rw [follow, hdir]
    simp only [hname.ne_dot, hname.ne_dots, if_false, hsome, if_true]
    split
    · exact .inr rfl
    · exact ih (fun n hn => hnames n (List.mem_cons_of_mem _ hn)) h

theorem stat_eq_ok {disk : Disk} {path : Path} {node : Tree} :
    disk.stat path = .ok node ↔
      ∃ location, disk.locate path = .ok location ∧ disk.top.get? location = some node := by
  unfold stat
  cases hlocate : disk.locate path with
  | error refusal => simp [bind, Except.bind]
  | ok location =>
    cases hget : disk.top.get? location <;>
      simp [bind, Except.bind, pure, Except.pure, throw, throwThe, MonadExceptOf.throw, hget]

theorem stat_eq_error {disk : Disk} {path : Path} {refusal : Refusal}
    (h : disk.stat path = .error refusal) :
    disk.locate path = .error refusal ∨ refusal = .notFound := by
  unfold stat at h
  cases hlocate : disk.locate path with
  | error refusal' =>
    simp only [hlocate, bind, Except.bind] at h
    exact .inl (by rw [Except.error.inj h])
  | ok location =>
    rw [hlocate] at h
    cases hget : disk.top.get? location with
    | none =>
      simp only [bind, Except.bind, hget] at h
      exact .inr (Except.error.inj h).symm
    | some node =>
      simp only [bind, Except.bind, hget] at h
      cases h

theorem stat_of_locate_error {disk : Disk} {path : Path} {refusal : Refusal}
    (h : disk.locate path = .error refusal) : disk.stat path = .error refusal := by
  rw [stat, h]
  rfl

theorem node?_eq_some {disk : Disk} {path : Path} {node : Tree} :
    disk.node? path = some node ↔ hasNull path = false ∧ disk.stat path = .ok node := by
  unfold node?
  cases hnull : hasNull path with
  | true => simp
  | false => cases hstat : disk.stat path <;> simp [Except.toOption]

theorem look_eq_some {disk : Disk} {path : Path} {node : Tree} :
    disk.look path = .ok (some node) ↔ hasNull path = false ∧ disk.stat path = .ok node := by
  rw [← node?_eq_some]
  unfold look
  split
  · next hstat =>
    have hnone : disk.node? path = none := by simp [node?, hstat, Except.toOption]
    rw [hnone]
    split <;> simp
  · simp

theorem look_of_error {disk : Disk} {path : Path} {refusal : Refusal}
    (h : disk.stat path = .error refusal) (hne : refusal ≠ .nameTooLong) :
    disk.look path = .ok none := by
  have hnode : disk.node? path = none := by simp [node?, h, Except.toOption]
  unfold look
  rw [hnode]
  split
  · next hlong => exact absurd (Except.error.inj (h.symm.trans hlong)) hne
  · simp

theorem stat_of_readBytes {disk : Disk} {path : Path} {name : Text} {octets : List UInt8}
    (h : disk.readBytes path name = .ok octets) : disk.stat path = .ok (.file octets) := by
  unfold readBytes at h
  split at h
  · cases h
  · split at h
    · cases h
    · cases h
    · next hstat => rw [hstat, Except.ok.inj h]

theorem locate_below {disk : Disk} {path : Path} {location names : List Text} {node : Tree}
    (h : disk.locate path = .ok location) (hnames : ∀ name ∈ names, Path.IsName name)
    (hget : disk.top.get? (location ++ names) = some node) :
    disk.locate { path with parts := path.parts ++ names } = .ok (location ++ names) ∨
      disk.locate { path with parts := path.parts ++ names } = .error .nameTooLong := by
  unfold locate followPart at h ⊢
  split at h
  · cases h
  · have hstart : disk.startOf { path with parts := path.parts ++ names } = disk.startOf path := rfl
    split
    · exact .inr rfl
    · rw [hstart, follow_append, h]
      exact follow_names hnames hget

structure Grows (written : List Text → Prop) (before after : Disk) : Prop where
  top : before.top.Grows written after.top
  workingDir : after.workingDir = before.workingDir
  room : after.room = before.room

namespace Grows

variable {written : List Text → Prop}

/-- Following parts of a path stops where it stopped before, unless it stopped for want of something
that may be there now. -/
theorem follow {before after : Tree} (hgrows : before.Grows written after)
    {location parts : List Text} (h : follow before location parts ≠ .error .notFound) :
    Disk.follow after location parts = Disk.follow before location parts := by
  induction parts generalizing location with
  | nil => rfl
  | cons part parts ih =>
    rw [Disk.follow] at h ⊢
    rw [Disk.follow]
    cases hget : before.get? location with
    | none => simp [hget] at h
    | some node =>
      cases node with
      | file octets =>
        have hfile := hgrows.files location (by rw [fileAt?_eq_some.2 hget]; rfl)
        obtain ⟨octets', hfile⟩ := Option.isSome_iff_exists.1 hfile
        rw [fileAt?_eq_some.1 hfile]
      | dir entries =>
        obtain ⟨entries', hdir⟩ := hgrows.dirs location ⟨entries, hget⟩
        rw [hdir]
        simp only [hget] at h ⊢
        split
        · next hdot =>
          rw [if_pos hdot] at h
          exact ih h
        · next hdot =>
          rw [if_neg hdot] at h
          split
          · next hdots =>
            rw [if_pos hdots] at h
            exact ih h
          · next hdots =>
            rw [if_neg hdots] at h
            split
            · rfl
            · next hsize =>
              rw [if_neg hsize] at h
              by_cases hsome : (entries.lookup part).isSome = true
              · have hsome' : (entries'.lookup part).isSome = true := by
                  rw [← get?_concat hdir]
                  apply hgrows.isSome_get?
                  rwa [get?_concat hget]
                rw [if_pos hsome] at h ⊢
                rw [if_pos hsome']
                exact ih h
              · simp [hsome] at h

variable {before after : Disk} {path : Path}

theorem refl (written : List Text → Prop) (disk : Disk) : Grows written disk disk :=
  ⟨.refl written disk.top, rfl, rfl⟩

theorem trans {disk : Disk} (h : Grows written before after) (h' : Grows written after disk) :
    Grows written before disk :=
  ⟨h.top.trans h'.top, h'.workingDir.trans h.workingDir, h'.room.trans h.room⟩

theorem mono {written' : List Text → Prop} (h : Grows written before after)
    (hsub : ∀ location, written location → written' location) : Grows written' before after :=
  ⟨h.top.mono hsub, h.workingDir, h.room⟩

theorem startOf (h : Grows written before after) (path : Path) :
    after.startOf path = before.startOf path := by
  rw [Disk.startOf, Disk.startOf, h.workingDir]

theorem followPart (h : Grows written before after) {parts : List Text}
    (hne : before.followPart path parts ≠ .error .notFound) :
    after.followPart path parts = before.followPart path parts := by
  unfold Disk.followPart at hne ⊢
  rw [h.startOf]
  split
  · rfl
  · next hsize =>
    rw [if_neg hsize] at hne
    exact follow h.top hne

theorem locate (h : Grows written before after) (hne : before.locate path ≠ .error .notFound) :
    after.locate path = before.locate path :=
  h.followPart hne

theorem stat_dir (h : Grows written before after) {entries : List (Text × Tree)}
    (hstat : before.stat path = .ok (.dir entries)) :
    ∃ entries', after.stat path = .ok (.dir entries') := by
  obtain ⟨location, hlocate, hget⟩ := stat_eq_ok.1 hstat
  obtain ⟨entries', hget'⟩ := h.top.dirs location ⟨entries, hget⟩
  refine ⟨entries', stat_eq_ok.2 ⟨location, ?_, hget'⟩⟩
  rw [h.locate (by simp [hlocate]), hlocate]

theorem stat_file (h : Grows written before after) {octets : List UInt8}
    (hstat : before.stat path = .ok (.file octets)) :
    ∃ octets', after.stat path = .ok (.file octets') := by
  obtain ⟨location, hlocate, hget⟩ := stat_eq_ok.1 hstat
  have hfile := h.top.files location (by rw [fileAt?_eq_some.2 hget]; rfl)
  obtain ⟨octets', hfile⟩ := Option.isSome_iff_exists.1 hfile
  refine ⟨octets', stat_eq_ok.2 ⟨location, ?_, fileAt?_eq_some.1 hfile⟩⟩
  rw [h.locate (by simp [hlocate]), hlocate]

theorem stat_other (h : Grows written before after) {octets : List UInt8}
    (hstat : before.stat path = .ok (.file octets))
    (hother : ∀ location, before.locate path = .ok location → ¬ written location) :
    after.stat path = .ok (.file octets) := by
  obtain ⟨location, hlocate, hget⟩ := stat_eq_ok.1 hstat
  refine stat_eq_ok.2 ⟨location, ?_, h.top.get?_file hget (hother location hlocate)⟩
  rw [h.locate (by simp [hlocate]), hlocate]

theorem stat_error (h : Grows written before after) {refusal : Refusal}
    (hstat : before.stat path = .error refusal) (hne : refusal ≠ .notFound) :
    after.stat path = .error refusal := by
  have hlocate := (stat_eq_error hstat).resolve_right hne
  apply stat_of_locate_error
  rw [h.locate (by simp [hlocate, hne]), hlocate]

theorem readBytes (h : Grows written before after) (hfound : before.stat path ≠ .error .notFound)
    (hother : ∀ location, before.locate path = .ok location → ¬ written location) (name : Text) :
    after.readBytes path name = before.readBytes path name := by
  unfold Disk.readBytes
  cases hstat : before.stat path with
  | error refusal =>
    have hne : refusal ≠ .notFound := fun hne => hfound (by rw [hstat, hne])
    rw [h.stat_error hstat hne]
  | ok node =>
    cases node with
    | file octets => rw [h.stat_other hstat hother]
    | dir entries =>
      obtain ⟨entries', hdir⟩ := h.stat_dir hstat
      rw [hdir]

end Grows

end EndpointManifest.Disk
