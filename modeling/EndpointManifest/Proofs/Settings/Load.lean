import EndpointManifest.Proofs.Except
import EndpointManifest.Proofs.File.Write
import EndpointManifest.Proofs.Schema.Fault
import EndpointManifest.Settings.Load

/-! What loading settings goes through, and the same settings from a disk that has grown. -/

namespace EndpointManifest

open Text

/-- A file, where something else or nothing may be. -/
def Tree.isFile? (found : Option Tree) : Bool := found.any (!·.isDir)

namespace Disk

open EndpointManifest.Tree

variable {written : List Text → Prop} {before after : Disk}

/-- Names below the top lead to what stands at them, unless one of them or all of them are too
long. -/
theorem followPart_names {path : Path} {names : List Text} {node : Tree}
    (hroot : path.anchor = .root) (hnames : ∀ n ∈ names, Path.IsName n)
    (hget : before.top.get? names = some node) :
    before.followPart path names = .ok names ∨
      before.followPart path names = .error .nameTooLong := by
  have hstart : before.startOf path = [] := by simp [startOf, Path.isAbsolute, hroot]
  unfold followPart
  split
  · exact .inr rfl
  · rw [hstart]
    exact follow_names hnames hget

/-- Where a name was missing there is still nothing, or a directory has been made. -/
theorem Grows.stat_of_missing (hgrows : Grows written before after) {path : Path}
    {parent : List Text} {name : Text} (hparts : path.parts = parent ++ [name])
    (hroot : path.anchor = .root) (hnames : ∀ n ∈ parent, Path.IsName n) (hname : Path.IsName name)
    (hdir : before.top.DirAt parent) (hother : ¬ written (parent ++ [name]))
    (h : before.stat path = .error .notFound) :
    (∀ refusal, after.stat path = .error refusal → refusal = .notFound) ∧
      ∀ node, after.stat path = .ok node → node.isDir = true := by
  obtain ⟨entries, hentries⟩ := hdir
  rcases followPart_names hroot hnames hentries with hreach | hlong
  · rw [stat_name hparts hreach hentries hname.ne_dot hname.ne_dots] at h
    split at h
    · cases h
    · next hsize =>
      have hfree : before.top.get? (parent ++ [name]) = none := by
        cases hnode : before.top.get? (parent ++ [name]) with
        | none => rfl
        | some node =>
          rw [hnode] at h
          cases h
      have hfree' : after.top.fileAt? (parent ++ [name]) = none := by
        rw [hgrows.top.others _ hother, fileAt?, hfree]
      obtain ⟨entries', hentries'⟩ := hgrows.top.dirs parent ⟨entries, hentries⟩
      have hreach' := (hgrows.followPart (by simp [hreach])).trans hreach
      rw [stat_name hparts hreach' hentries' hname.ne_dot hname.ne_dots, if_neg hsize]
      cases hnode : after.top.get? (parent ++ [name]) with
      | none =>
        constructor
        · intro refusal hrefusal
          exact (Except.error.inj hrefusal).symm
        · intro node hstat
          cases hstat
      | some node =>
        constructor
        · intro refusal hrefusal
          cases hrefusal
        · intro node' hstat
          obtain rfl := Except.ok.inj hstat
          cases node with
          | dir entries => rfl
          | file octets =>
            rw [fileAt?_eq_some.2 hnode] at hfree'
            cases hfree'
  · have hlocate : before.locate path = _ := locate_eq_bind hparts
    rw [hlong] at hlocate
    rw [stat_of_locate_error hlocate] at h
    cases h

/-- Looking for a name in a directory finds a file iff it found one before, unless that file was
written. -/
theorem Grows.look_name (hgrows : Grows written before after) {path : Path} {parent : List Text}
    {name : Text} {found : Option Tree} (hpath : path = ⟨.root, parent ++ [name]⟩)
    (hnames : ∀ n ∈ parent, Path.IsName n) (hname : Path.IsName name)
    (hdir : before.top.DirAt parent) (hother : ¬ written (parent ++ [name]))
    (h : before.look path = .ok found) :
    ∃ found', after.look path = .ok found' ∧ Tree.isFile? found' = Tree.isFile? found := by
  have hroot : path.anchor = .root := by rw [hpath]
  have hparts : path.parts = parent ++ [name] := by rw [hpath]
  cases hnull : hasNull path with
  | true =>
    simp [look, hnull, node?] at h ⊢
    rw [← h]
  | false =>
    cases hstat : before.stat path with
    | ok node =>
      have hfound : found = some node := by
        have hnode := look_eq_some.2 ⟨hnull, hstat⟩
        exact Except.ok.inj (h.symm.trans hnode)
      rw [hfound]
      cases node with
      | file octets =>
        obtain ⟨octets', hafter⟩ := hgrows.stat_file hstat
        exact ⟨_, look_eq_some.2 ⟨hnull, hafter⟩, rfl⟩
      | dir entries =>
        obtain ⟨entries', hafter⟩ := hgrows.stat_dir hstat
        exact ⟨_, look_eq_some.2 ⟨hnull, hafter⟩, rfl⟩
    | error refusal =>
      have hshort : refusal ≠ .nameTooLong := by
        rintro rfl
        simp [look, hnull, hstat] at h
      have hfound : found = none := Except.ok.inj (h.symm.trans (look_of_error hstat hshort))
      rw [hfound]
      by_cases hmissing : refusal = .notFound
      · subst hmissing
        have hnode := hgrows.stat_of_missing hparts hroot hnames hname hdir hother hstat
        cases hafter : after.stat path with
        | error refusal =>
          have hrefusal := hnode.1 refusal hafter
          exact ⟨none, look_of_error hafter (by simp [hrefusal]), rfl⟩
        | ok node =>
          refine ⟨some node, look_eq_some.2 ⟨hnull, hafter⟩, ?_⟩
          simp [Tree.isFile?, hnode.2 node hafter]
      · exact ⟨none, look_of_error (hgrows.stat_error hstat hmissing) hshort, rfl⟩

end Disk

namespace Settings

def givenEntries (disk : Disk) : Option Text → Except LoadError (List (Datum × Datum))
  | none | some [] => .ok []
  | some path => fileEntries disk path

theorem givenEntries_some {disk : Disk} {path : Text} (h : path ≠ []) :
    givenEntries disk (some path) = fileEntries disk path := by
  obtain ⟨c, p, rfl⟩ := List.exists_cons_of_ne_nil h
  rfl

theorem givenEntries_of_none {disk : Disk} {path : Option Text}
    (h : ∀ p, path = some p → p = []) : givenEntries disk path = .ok [] := by
  rcases path with _ | _ | ⟨c, p⟩
  · rfl
  · rfl
  · cases h _ rfl

theorem load_eq (disk : Disk) (path : Option Text) (overrides : List (Text × Datum)) :
    load disk path overrides =
      if ∃ override ∈ overrides, override.1 = "path".toList then .error .pathGivenTwice
      else givenEntries disk path >>= (ofEntriesWith · overrides) := by
  have hany : (overrides.any fun override => override.1 = "path".toList) = true ↔
      ∃ override ∈ overrides, override.1 = "path".toList := by
    simp only [List.any_eq_true, decide_eq_true_eq]
  by_cases htwice : ∃ override ∈ overrides, override.1 = "path".toList
  · rw [if_pos htwice]
    exact (if_pos (hany.2 htwice)).trans rfl
  · rw [if_neg htwice]
    refine (if_neg (htwice ∘ hany.1)).trans ?_
    rcases path with _ | _ | ⟨c, p⟩ <;> rfl

section

variable {entries : List (Datum × Datum)} {overrides : List (Text × Datum)}

theorem any_not_isText :
    (entries.any fun e => !e.1.isText) = true ↔ ∃ e ∈ entries, e.1.isText = false := by
  simp only [List.any_eq_true, Bool.not_eq_true']

theorem ofEntriesWith_of_keyNotText (h : ∃ e ∈ entries, e.1.isText = false) :
    ofEntriesWith entries overrides = .error .keyNotText :=
  if_pos (any_not_isText.2 h)

theorem ofEntriesWith_of_isText (h : ∀ e ∈ entries, e.1.isText = true) :
    ofEntriesWith entries overrides =
      (ofEntries (entries ++ effective overrides)).toExcept.mapError .invalid := by
  have hkeys : ¬ (entries.any fun e => !e.1.isText) = true := by
    simpa using h
  refine (if_neg hkeys).trans ?_
  cases ofEntries (entries ++ effective overrides) <;> rfl

theorem ofEntriesWith_eq_ok {s : Settings} :
    ofEntriesWith entries overrides = .ok s ↔
      (∀ e ∈ entries, e.1.isText = true) ∧ ofEntries (entries ++ effective overrides) = .valid s := by
  by_cases h : ∀ e ∈ entries, e.1.isText = true
  · rw [ofEntriesWith_of_isText h, and_iff_right h, mapError_eq_ok, Checked.toExcept_eq_ok]
  · rw [ofEntriesWith_of_keyNotText (by simpa using h)]
    exact iff_of_false nofun fun hboth => h hboth.1

end

variable {written : List Text → Prop} {before after : Disk}

theorem find_go {paths : List Path} {chosen : Option Path}
    (hlook : ∀ path ∈ paths, ∀ found, before.look path = .ok found →
      ∃ found', after.look path = .ok found' ∧ Tree.isFile? found' = Tree.isFile? found)
    (h : find.go before paths = .ok chosen) : find.go after paths = .ok chosen := by
  induction paths with
  | nil => exact h
  | cons path rest ih =>
    have ih := ih fun p hp => hlook p (List.mem_cons_of_mem _ hp)
    rw [find.go] at h ⊢
    obtain ⟨found, hfound, h⟩ := bind_eq_ok.1 h
    obtain ⟨found', hfound', hsame⟩ := hlook path (List.mem_cons_self ..) found hfound
    refine bind_eq_ok.2 ⟨found', hfound', ?_⟩
    rcases found with _ | (_ | _) <;> rcases found' with _ | (_ | _) <;>
      first | exact h | exact ih h | cases hsame

theorem fileEntries_congr {path : Text}
    (h : after.readBytes (.verbatim path) path = before.readBytes (.verbatim path) path) :
    fileEntries after path = fileEntries before path := by
  rw [fileEntries, fileEntries, Disk.readTextInPieces, Disk.readTextInPieces, h]

theorem exists_stat_of_fileEntries {path : Text} {entries : List (Datum × Datum)}
    (h : fileEntries before path = .ok entries) :
    ∃ octets, before.stat (.verbatim path) = .ok (.file octets) := by
  cases hread : before.readTextInPieces (.verbatim path) path with
  | ok text =>
    unfold Disk.readTextInPieces at hread
    obtain ⟨octets, hbytes, _⟩ := bind_eq_ok.1 hread
    exact ⟨octets, Disk.stat_of_readBytes hbytes⟩
  | error e =>
    rw [fileEntries, hread] at h
    cases h

theorem load_grows (hgrows : before.Grows written after) {path : Option Text}
    {overrides : List (Text × Datum)} {s : Settings}
    (hother : ∀ p, path = some p → ∀ location, before.locate (.verbatim p) = .ok location →
      ¬ written location)
    (h : load before path overrides = .ok s) : load after path overrides = .ok s := by
  rw [load_eq] at h ⊢
  split at h
  · cases h
  · next hpath =>
    obtain ⟨entries, hread, h⟩ := bind_eq_ok.1 h
    rw [if_neg hpath]
    refine bind_eq_ok.2 ⟨entries, ?_, h⟩
    rcases path with _ | _ | ⟨c, p⟩
    · exact hread
    · exact hread
    · rw [givenEntries_some (List.cons_ne_nil _ _)] at hread ⊢
      obtain ⟨octets, hstat⟩ := exists_stat_of_fileEntries hread
      rw [fileEntries_congr (hgrows.readBytes (by simp [hstat]) (hother _ rfl) _)]
      exact hread

end Settings
end EndpointManifest
