import EndpointManifest.Proofs.Discovery
import EndpointManifest.Proofs.File.Listing

/-! When the walk is given up: it comes to a directory that lies more levels below the root than
there is room for. Which directories it comes to does not depend on the order in which it does. -/

namespace EndpointManifest

open Text

theorem Tree.Proper.dirAt_cons {entries : List (Text × Tree)} (h : Proper (Tree.dir entries))
    {name : Text} {rest : List Text} :
    DirAt (.dir entries) (name :: rest) ↔ ∃ node, (name, node) ∈ entries ∧ node.DirAt rest := by
  simp only [DirAt, h.get?_cons_eq_some]
  constructor
  · rintro ⟨sub, node, hmem, hget⟩
    exact ⟨node, hmem, sub, hget⟩
  · rintro ⟨node, hmem, sub, hget⟩
    exact ⟨sub, node, hmem, hget⟩

theorem Tree.isDir_of_dirAt {node : Tree} {dirs : List Text} (h : node.DirAt dirs) :
    node.isDir = true := by
  obtain ⟨entries, hget⟩ := dirAt_nil h
  obtain rfl := Option.some.inj hget
  rfl

namespace Discovery

variable {path : Path} {tree : Tree} {entries : List (Text × Tree)} {levels : Nat}

/-- The walk comes to a directory, unless it is given up before: no name on the way there hides it,
and the entries of the one above it are listed. -/
structure Enters (path : Path) (tree : Tree) (dirs : List Text) : Prop where
  dir : tree.DirAt dirs
  shown : ∀ dir ∈ dirs, entersDir dir = true
  listed : isListed path dirs.dropLast = true

theorem dirsAmong_eq_flatMap : dirsAmong entries = entries.flatMap fun entry =>
    if entry.2.isDir && entersDir entry.1 then
      [entry.1] :: (dirsBelow entry.2).map (entry.1 :: ·)
    else [] := by
  induction entries with
  | nil => rfl
  | cons entry entries ih =>
    obtain ⟨name, node⟩ := entry
    rw [dirsAmong, List.flatMap_cons, ih]
    cases node.isDir && entersDir name <;> simp

theorem mem_dirsAmong {dirs : List Text} :
    dirs ∈ dirsAmong entries ↔ ∃ name node rest, dirs = name :: rest ∧ (name, node) ∈ entries ∧
      node.isDir = true ∧ entersDir name = true ∧ (rest = [] ∨ rest ∈ dirsBelow node) := by
  rw [dirsAmong_eq_flatMap, List.mem_flatMap]
  constructor
  · rintro ⟨⟨name, node⟩, hmem, hdirs⟩
    split at hdirs
    · next h =>
      obtain ⟨hdir, henters⟩ := Bool.and_eq_true_iff.1 h
      rcases List.mem_cons.1 hdirs with rfl | hdirs
      · exact ⟨name, node, [], rfl, hmem, hdir, henters, .inl rfl⟩
      · obtain ⟨rest, hrest, rfl⟩ := List.mem_map.1 hdirs
        exact ⟨name, node, rest, rfl, hmem, hdir, henters, .inr hrest⟩
    · cases hdirs
  · rintro ⟨name, node, rest, rfl, hmem, hdir, henters, hrest⟩
    refine ⟨(name, node), hmem, ?_⟩
    simp only [hdir, henters, Bool.and_self, if_true, List.mem_cons, List.mem_map, List.cons.injEq,
      true_and, exists_eq_right]
    exact hrest

theorem mem_dirsBelow_iff (h : tree.Proper) {dirs : List Text} :
    dirs ∈ dirsBelow tree ↔
      dirs ≠ [] ∧ tree.DirAt dirs ∧ ∀ dir ∈ dirs, entersDir dir = true := by
  induction h generalizing dirs with
  | file octets =>
    constructor
    · intro hmem
      simp [dirsBelow] at hmem
    · rintro ⟨_, hdir, _⟩
      cases Tree.isDir_of_dirAt hdir
  | @dir entries nodup names children ih =>
    have hproper : Tree.Proper (.dir entries) := .dir nodup names children
    rw [dirsBelow, mem_dirsAmong]
    constructor
    · rintro ⟨name, node, rest, rfl, hmem, hdir, henters, hrest⟩
      rw [hproper.dirAt_cons, List.forall_mem_cons]
      rcases hrest with rfl | hrest
      · cases node with
        | file octets => cases hdir
        | dir sub => exact ⟨by simp, ⟨.dir sub, hmem, sub, rfl⟩, henters, by simp⟩
      · obtain ⟨_, hbelow, hall⟩ := (ih _ hmem).1 hrest
        exact ⟨by simp, ⟨node, hmem, hbelow⟩, henters, hall⟩
    · rintro ⟨hne, hdir, hall⟩
      obtain ⟨name, rest, rfl⟩ := List.exists_cons_of_ne_nil hne
      obtain ⟨node, hmem, hbelow⟩ := hproper.dirAt_cons.1 hdir
      obtain ⟨henters, hall⟩ := List.forall_mem_cons.1 hall
      refine ⟨name, node, rest, rfl, hmem, Tree.isDir_of_dirAt hbelow, henters, ?_⟩
      by_cases hrest : rest = []
      · exact .inl hrest
      · exact .inr ((ih _ hmem).2 ⟨hrest, hbelow, hall⟩)

theorem isTooDeep_iff (h : tree.Proper) :
    isTooDeep levels path tree = true ↔ ∃ dirs, Enters path tree dirs ∧ levels < dirs.length := by
  simp only [isTooDeep, List.any_eq_true, mem_dirsBelow_iff h, Bool.and_eq_true, decide_eq_true_eq]
  constructor
  · rintro ⟨dirs, ⟨_, hdir, hall⟩, hdeep, hlisted⟩
    exact ⟨dirs, ⟨hdir, hall, hlisted⟩, hdeep⟩
  · rintro ⟨dirs, ⟨hdir, hall, hlisted⟩, hdeep⟩
    exact ⟨dirs, ⟨List.ne_nil_of_length_pos (by omega), hdir, hall⟩, hdeep, hlisted⟩

theorem isTooDeep_eq_false_iff (h : tree.Proper) :
    isTooDeep levels path tree = false ↔ ∀ dirs, Enters path tree dirs → dirs.length ≤ levels := by
  rw [← Bool.not_eq_true, isTooDeep_iff h]
  simp only [not_exists, not_and, Nat.not_lt]

/-- How deep the walk has to go depends on nothing but the directories. -/
theorem isTooDeep_congr {tree' : Tree} (h : tree.Proper) (h' : tree'.Proper)
    (hsame : ∀ dirs, tree.DirAt dirs ↔ tree'.DirAt dirs) :
    isTooDeep levels path tree = isTooDeep levels path tree' := by
  have henters : ∀ dirs, Enters path tree dirs ↔ Enters path tree' dirs := fun dirs =>
    ⟨fun h => ⟨(hsame dirs).1 h.dir, h.shown, h.listed⟩,
      fun h => ⟨(hsame dirs).2 h.dir, h.shown, h.listed⟩⟩
  rw [Bool.eq_iff_iff, isTooDeep_iff h, isTooDeep_iff h']
  simp only [henters]

/-- Each name makes the written path longer by itself and a slash at most. -/
theorem byteSize_walkText_le (path : Path) {dirs : List Text} {size : Nat}
    (h : ∀ dir ∈ dirs, Disk.byteSize dir ≤ size) :
    Disk.byteSize (walkText path dirs) ≤
      Disk.byteSize path.toText + dirs.length * (size + 1) := by
  have hslash (u : Text) : Disk.byteSize ('/' :: u) = Disk.byteSize u + 1 := by
    have hone : Disk.byteSize ['/'] = 1 := rfl
    rw [← List.singleton_append, Disk.byteSize_append, hone, Nat.add_comm]
  unfold walkText
  generalize path.toText = t
  induction dirs generalizing t with
  | nil => simp
  | cons dir dirs ih =>
    obtain ⟨hdir, hdirs⟩ := List.forall_mem_cons.1 h
    rw [List.foldl_cons, List.length_cons, Nat.succ_mul]
    refine (ih hdirs _).trans ?_
    split
    · rw [Disk.byteSize_append]
      omega
    · rw [Disk.byteSize_append, hslash]
      omega

end Discovery
end EndpointManifest
