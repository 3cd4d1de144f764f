import EndpointManifest.Proofs.File.Path
import EndpointManifest.Proofs.File.Write
import Mathlib.Data.List.DropRight

/-! How making directories and writing files fail. But for a path with U+0000, the system refuses a
path, or more directories are missing one above the other than can be made at once; then none of
them is made. -/

namespace EndpointManifest.Disk

open Text

variable {disk after : Disk} {path : Path} {e : FileError}

theorem hasNull_ofText {t : Text} : hasNull (.ofText t) = true ↔ '\x00' ∈ t := by
  have hparts : '\x00' ∈ (splitOn '/' t).flatten ↔ '\x00' ∈ t := by
    rw [splitOn, flatten_splitWhere, List.mem_filter]
    exact and_iff_left (by decide)
  rw [hasNull, List.any_eq_true, ← hparts, List.mem_flatten]
  refine exists_congr fun part => ?_
  rw [List.contains_iff_mem]
  refine and_congr_left fun hnull => List.mem_filter.trans (and_iff_left ?_)
  have hne : part ≠ [] := List.ne_nil_of_mem hnull
  have hdot : part ≠ ['.'] := by
    rintro rfl
    exact absurd hnull (by decide)
  simp [hne, hdot]

theorem writeBytes_refused {octets : List UInt8} (hnull : hasNull path = false)
    (h : disk.writeBytes path octets = (after, .error e)) :
    ∃ refusal, e = .refused refusal path.toText := by
  rw [writeBytes, hnull, if_neg Bool.false_ne_true] at h
  split at h
  · exact ⟨_, (Except.error.inj (Prod.mk.inj h).2).symm⟩
  · simp only at h
    split at h
    · exact ⟨_, (Except.error.inj (Prod.mk.inj h).2).symm⟩
    · cases h

theorem settle_refused {outcome : Except Refusal Disk}
    (h : disk.settle path outcome = (after, .error e)) :
    ∃ refusal, e = .refused refusal path.toText := by
  unfold settle at h
  split at h
  · cases h
  · split at h
    · cases h
    · exact ⟨_, (Except.error.inj (Prod.mk.inj h).2).symm⟩

/-- A path has so many levels on which no directory can be made, because the one above is missing:
the last level and those next to it. -/
structure Lacks (disk : Disk) (path : Path) (levels : Nat) : Prop where
  le_length : levels ≤ path.parts.length
  missing : ∀ i < levels,
    disk.makeDir { path with parts := path.parts.rdrop i } = .error .notFound

section Lacks

variable {anchor : Anchor} {name : Text} {above parts : List Text} {levels : Nat}

theorem lacks_zero : Lacks disk path 0 := ⟨Nat.zero_le _, nofun⟩

theorem lacks_succ : Lacks disk ⟨anchor, (name :: above).reverse⟩ (levels + 1) ↔
    disk.makeDir ⟨anchor, (name :: above).reverse⟩ = .error .notFound ∧
      Lacks disk ⟨anchor, above.reverse⟩ levels := by
  have hdrop : ∀ i, (name :: above).reverse.rdrop (i + 1) = above.reverse.rdrop i := by
    intro i
    rw [List.reverse_cons, List.rdrop_concat_succ]
  constructor
  · intro h
    refine ⟨by simpa using h.missing 0 (Nat.succ_pos _), ?_, fun i hi => ?_⟩
    · simpa using h.le_length
    · simpa only [hdrop] using h.missing (i + 1) (Nat.succ_lt_succ hi)
  · rintro ⟨hlast, h⟩
    refine ⟨by simpa using h.le_length, fun i hi => ?_⟩
    cases i with
    | zero => simpa using hlast
    | succ i => simpa only [hdrop] using h.missing i (Nat.lt_of_succ_lt_succ hi)

theorem makeDirsFrom_of_lacks (h : Lacks disk ⟨anchor, parts.reverse⟩ levels) :
    makeDirsFrom anchor disk levels parts = (disk, .error .tooDeep) := by
  induction levels generalizing parts with
  | zero => rw [makeDirsFrom]
  | succ levels ih =>
    cases parts with
    | nil => exact absurd h.le_length (by simp)
    | cons name above =>
      obtain ⟨hlast, habove⟩ := lacks_succ.1 h
      simp only [makeDirsFrom, hlast, ih habove]

theorem makeDirsFrom_refused (hlacks : ¬ Lacks disk ⟨anchor, parts.reverse⟩ levels)
    (h : makeDirsFrom anchor disk levels parts = (after, .error e)) :
    ∃ refusal shown, e = .refused refusal shown := by
  induction levels generalizing parts after with
  | zero => exact absurd lacks_zero hlacks
  | succ levels ih =>
    cases parts with
    | nil => exact (settle_refused h).imp fun _ he => ⟨_, he⟩
    | cons name above =>
      rw [makeDirsFrom] at h
      split at h
      · next hlast =>
        have habove : ¬ Lacks disk ⟨anchor, above.reverse⟩ levels := fun habove =>
          hlacks (lacks_succ.2 ⟨hlast, habove⟩)
        split at h
        · next made e' hmade =>
          obtain rfl := Except.error.inj (Prod.mk.inj h).2
          exact ih habove hmade
        · exact (settle_refused h).imp fun _ he => ⟨_, he⟩
      · exact (settle_refused h).imp fun _ he => ⟨_, he⟩

end Lacks

theorem makeDirs_of_lacks (hnull : hasNull path = false) (h : Lacks disk path disk.room.make) :
    disk.makeDirs path = (disk, .error .tooDeep) := by
  rw [makeDirs, hnull, if_neg Bool.false_ne_true]
  exact makeDirsFrom_of_lacks (by rwa [List.reverse_reverse])

theorem makeDirs_refused (hnull : hasNull path = false)
    (hlacks : ¬ Lacks disk path disk.room.make)
    (h : disk.makeDirs path = (after, .error e)) : ∃ refusal shown, e = .refused refusal shown := by
  rw [makeDirs, hnull, if_neg Bool.false_ne_true] at h
  exact makeDirsFrom_refused (by rwa [List.reverse_reverse]) h

end EndpointManifest.Disk
