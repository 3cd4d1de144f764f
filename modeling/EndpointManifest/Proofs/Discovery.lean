import EndpointManifest.Discovery
import EndpointManifest.Proofs.File.Tree
import EndpointManifest.Proofs.Text.Order

/-! What discovery finds: every spec file that no directory on the way hides, once, in one order.
The order and the members determine the list, so that nothing else about the tree matters to it. -/

namespace EndpointManifest

open Text

namespace Tree

theorem fileAt?_cons_dir (name : Text) (rest : List Text) (entries : List (Text × Tree)) :
    fileAt? (.dir entries) (name :: rest) = (entries.lookup name).bind (·.fileAt? rest) := by
  unfold fileAt?
  rw [get?_cons_dir]
  cases entries.lookup name <;> rfl

theorem isDir_of_fileAt? {node : Tree} {rest : List Text} {octets : List UInt8}
    (h : node.fileAt? rest = some octets) : node.isDir = !rest.isEmpty := by
  cases node <;> cases rest <;> first | rfl | cases h

end Tree

namespace Discovery

variable {suffixes : List Text} {tree : Tree} {entries : List (Text × Tree)}

/-- A spec file that discovery is to find: only the directories above it can hide it. -/
def IsFound (suffixes : List Text) (tree : Tree) (parts : List Text) : Prop :=
  ∃ dirs name, parts = dirs ++ [name] ∧ (tree.fileAt? parts).isSome ∧
    (∀ dir ∈ dirs, entersDir dir = true) ∧ isSpecFile suffixes name = true

theorem mem_ownFiles {name : Text} :
    name ∈ ownFiles suffixes entries ↔
      ∃ node, (name, node) ∈ entries ∧ node.isDir = false ∧ isSpecFile suffixes name = true := by
  simp [ownFiles, mem_sorted]

theorem subdirs_eq (suffixes : List Text) (entries : List (Text × Tree)) :
    subdirs suffixes entries =
      (entries.filter fun (name, node) => node.isDir && entersDir name).map fun (name, node) =>
        (name, below suffixes node) := by
  induction entries with
  | nil => simp [subdirs]
  | cons entry rest ih =>
    obtain ⟨name, node⟩ := entry
    rw [subdirs]
    split
    · next h => simp [h, ih]
    · next h => simp [h, ih]

theorem mem_subdirs {name : Text} {found : List (List Text)} :
    (name, found) ∈ subdirs suffixes entries ↔
      ∃ node, (name, node) ∈ entries ∧ node.isDir = true ∧ entersDir name = true ∧
        found = below suffixes node := by
  rw [subdirs_eq, List.mem_map]
  constructor
  · rintro ⟨⟨name', node⟩, hmem, heq⟩
    obtain ⟨rfl, rfl⟩ := Prod.mk.inj heq
    obtain ⟨hmem, hdir⟩ := List.mem_filter.1 hmem
    rw [Bool.and_eq_true] at hdir
    exact ⟨node, hmem, hdir.1, hdir.2, rfl⟩
  · rintro ⟨node, hmem, hdir, henters, rfl⟩
    exact ⟨(name, node), List.mem_filter.2 ⟨hmem, by simp [hdir, henters]⟩, rfl⟩

theorem mem_below_dir {parts : List Text} :
    parts ∈ below suffixes (.dir entries) ↔
      (∃ name node, parts = [name] ∧ (name, node) ∈ entries ∧ node.isDir = false ∧
        isSpecFile suffixes name = true) ∨
      ∃ name node rest, parts = name :: rest ∧ (name, node) ∈ entries ∧ node.isDir = true ∧
        entersDir name = true ∧ rest ∈ below suffixes node := by
  rw [below, List.mem_append, List.mem_map, List.mem_flatMap]
  refine or_congr ?_ ?_
  · constructor
    · rintro ⟨name, hname, rfl⟩
      obtain ⟨node, hmem, hfile, hspec⟩ := mem_ownFiles.1 hname
      exact ⟨name, node, rfl, hmem, hfile, hspec⟩
    · rintro ⟨name, node, rfl, hmem, hfile, hspec⟩
      exact ⟨name, mem_ownFiles.2 ⟨node, hmem, hfile, hspec⟩, rfl⟩
  · constructor
    · rintro ⟨⟨name, found⟩, hsub, hparts⟩
      obtain ⟨node, hmem, hdir, henters, rfl⟩ := mem_subdirs.1 (mem_sortedByKey.1 hsub)
      obtain ⟨rest, hrest, rfl⟩ := List.mem_map.1 hparts
      exact ⟨name, node, rest, rfl, hmem, hdir, henters, hrest⟩
    · rintro ⟨name, node, rest, rfl, hmem, hdir, henters, hrest⟩
      refine ⟨(name, below suffixes node), ?_, List.mem_map.2 ⟨rest, hrest, rfl⟩⟩
      exact mem_sortedByKey.2 (mem_subdirs.2 ⟨node, hmem, hdir, henters, rfl⟩)

theorem mem_below_iff (h : tree.Proper) {parts : List Text} :
    parts ∈ below suffixes tree ↔ IsFound suffixes tree parts := by
  induction h generalizing parts with
  | file octets =>
    constructor
    · intro hmem
      simp [below] at hmem
    · rintro ⟨dirs, name, rfl, hfile, _⟩
      cases dirs <;> cases hfile
  | dir nodup names children ih =>
    rw [mem_below_dir]
    constructor
    · rintro (⟨name, node, rfl, hmem, hfile, hspec⟩ |
        ⟨name, node, rest, rfl, hmem, _, henters, hrest⟩)
      · refine ⟨[], name, rfl, ?_, by simp, hspec⟩
        rw [Tree.fileAt?_cons_dir, (Tree.Proper.lookup_eq_some nodup).2 hmem]
        cases node with
        | file octets => rfl
        | dir entries => cases hfile
      · obtain ⟨dirs, last, rfl, hfile, hdirs, hspec⟩ := (ih _ hmem).1 hrest
        refine ⟨name :: dirs, last, rfl, ?_, List.forall_mem_cons.2 ⟨henters, hdirs⟩, hspec⟩
        rw [Tree.fileAt?_cons_dir, (Tree.Proper.lookup_eq_some nodup).2 hmem]
        exact hfile
    · rintro ⟨dirs, last, rfl, hfile, hdirs, hspec⟩
      cases dirs with
      | nil =>
        rw [List.nil_append, Tree.fileAt?_cons_dir] at hfile
        obtain ⟨octets, hoctets⟩ := Option.isSome_iff_exists.1 hfile
        obtain ⟨node, hlookup, hnode⟩ := Option.bind_eq_some_iff.1 hoctets
        have hmem := (Tree.Proper.lookup_eq_some nodup).1 hlookup
        exact .inl ⟨last, node, rfl, hmem, Tree.isDir_of_fileAt? hnode, hspec⟩
      | cons dir dirs =>
        obtain ⟨henters, hdirs⟩ := List.forall_mem_cons.1 hdirs
        rw [List.cons_append, Tree.fileAt?_cons_dir] at hfile
        obtain ⟨octets, hoctets⟩ := Option.isSome_iff_exists.1 hfile
        obtain ⟨node, hlookup, hnode⟩ := Option.bind_eq_some_iff.1 hoctets
        have hmem := (Tree.Proper.lookup_eq_some nodup).1 hlookup
        have hfound : dirs ++ [last] ∈ below suffixes node :=
          (ih _ hmem).2 ⟨dirs, last, rfl, by rw [hnode]; rfl, hdirs, hspec⟩
        refine .inr ⟨dir, node, dirs ++ [last], rfl, hmem, ?_, henters, hfound⟩
        rw [Tree.isDir_of_fileAt? hnode]
        simp

theorem ne_nil_of_mem_below (h : tree.Proper) {parts : List Text}
    (hmem : parts ∈ below suffixes tree) : parts ≠ [] := by
  obtain ⟨dirs, name, rfl, _⟩ := (mem_below_iff h).1 hmem
  simp

/-- The order of discovery: a file of a directory comes before whatever lies in a subdirectory, and
otherwise the first names that differ decide. -/
def Precedes : List Text → List Text → Prop
  | [a], [b] => Before a b
  | [_], _ :: _ :: _ => True
  | a :: c :: s, b :: d :: t => Before a b ∨ a = b ∧ Precedes (c :: s) (d :: t)
  | _, _ => False

theorem Precedes.asymm {s t : List Text} (h : Precedes s t) : ¬ Precedes t s := by
  induction s generalizing t with
  | nil => cases t <;> cases h
  | cons a s ih =>
    cases t with
    | nil => cases s <;> cases h
    | cons b t =>
      cases s with
      | nil =>
        cases t with
        | nil => exact Before.asymm h
        | cons d t => exact fun h' => h'
      | cons c s =>
        cases t with
        | nil => cases h
        | cons d t =>
          rintro (hba | ⟨rfl, hts⟩)
          · rcases h with hab | ⟨rfl, _⟩
            · exact hab.asymm hba
            · exact hba.2 rfl
          · rcases h with hab | ⟨_, hst⟩
            · exact hab.2 rfl
            · exact ih hst hts

theorem precedes_cons {a b : Text} {s t : List Text} (hs : s ≠ []) (ht : t ≠ []) :
    Precedes (a :: s) (b :: t) ↔ Before a b ∨ a = b ∧ Precedes s t := by
  obtain ⟨c, s, rfl⟩ := List.exists_cons_of_ne_nil hs
  obtain ⟨d, t, rfl⟩ := List.exists_cons_of_ne_nil ht
  exact Iff.rfl

theorem precedes_single {a b : Text} {t : List Text} (ht : t ≠ []) : Precedes [a] (b :: t) := by
  obtain ⟨d, t, rfl⟩ := List.exists_cons_of_ne_nil ht
  trivial

/-- Discovery lists in this order, each file once. -/
theorem pairwise_below (h : tree.Proper) : (below suffixes tree).Pairwise Precedes := by
  induction h with
  | file octets => simp [below]
  | @dir entries nodup names children ih =>
    have hsubdir : ∀ sub ∈ sortedByKey (subdirs suffixes entries),
        (∀ parts ∈ sub.2, parts ≠ []) ∧ sub.2.Pairwise Precedes := by
      rintro ⟨name, found⟩ hsub
      obtain ⟨node, hmem, _, _, rfl⟩ := mem_subdirs.1 (mem_sortedByKey.1 hsub)
      exact ⟨fun parts => ne_nil_of_mem_below (children _ hmem), ih _ hmem⟩
    have hnodup : ∀ p : Text × Tree → Bool, ((entries.filter p).map (·.1)).Nodup := by
      intro p
      exact (List.filter_sublist.map Prod.fst).nodup nodup
    rw [below, List.pairwise_append, List.pairwise_map, List.pairwise_flatMap]
    refine ⟨pairwise_sorted (hnodup _), ⟨?_, ?_⟩, ?_⟩
    · intro sub hsub
      obtain ⟨hne, hpairwise⟩ := hsubdir sub hsub
      rw [List.pairwise_map]
      refine hpairwise.imp_of_mem ?_
      intro s t hs ht hst
      exact (precedes_cons (hne s hs) (hne t ht)).2 (.inr ⟨rfl, hst⟩)
    · have hkeys : ((subdirs suffixes entries).map (·.1)).Nodup := by
        rw [subdirs_eq, List.map_map]
        exact hnodup _
      refine (pairwise_sortedByKey hkeys).imp_of_mem ?_
      intro a b ha hb hab x hx y hy
      obtain ⟨s, hs, rfl⟩ := List.mem_map.1 hx
      obtain ⟨t, ht, rfl⟩ := List.mem_map.1 hy
      exact (precedes_cons ((hsubdir a ha).1 s hs) ((hsubdir b hb).1 t ht)).2 (.inl hab)
    · intro x hx y hy
      obtain ⟨name, _, rfl⟩ := List.mem_map.1 hx
      obtain ⟨sub, hsub, hy⟩ := List.mem_flatMap.1 hy
      obtain ⟨t, ht, rfl⟩ := List.mem_map.1 hy
      exact precedes_single ((hsubdir sub hsub).1 t ht)

theorem nodup_below (h : tree.Proper) : (below suffixes tree).Nodup := by
  refine (pairwise_below h).imp ?_
  rintro x _ hxx rfl
  exact hxx.asymm hxx

/-- The list depends on nothing but its members. -/
theorem below_congr {tree' : Tree} (h : tree.Proper) (h' : tree'.Proper)
    (hsame : ∀ parts, IsFound suffixes tree parts ↔ IsFound suffixes tree' parts) :
    below suffixes tree = below suffixes tree' := by
  have hperm : (below suffixes tree).Perm (below suffixes tree') := by
    refine (List.perm_ext_iff_of_nodup (nodup_below h) (nodup_below h')).2 fun parts => ?_
    rw [mem_below_iff h, mem_below_iff h', hsame]
  refine List.Perm.eq_of_pairwise ?_ (pairwise_below h) (pairwise_below h') hperm
  intro x y _ _ hxy hyx
  exact absurd hyx hxy.asymm

theorem mem_filesBelow {path file : Path} :
    file ∈ filesBelow path suffixes tree ↔
      ∃ parts, parts ∈ below suffixes tree ∧ isListed path parts.dropLast = true ∧
        file = { path with parts := path.parts ++ parts } := by
  simp only [filesBelow, List.mem_map, List.mem_filter, and_assoc, eq_comm (a := file)]

end Discovery
end EndpointManifest
