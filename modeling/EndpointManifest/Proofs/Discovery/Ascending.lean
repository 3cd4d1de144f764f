import EndpointManifest.Proofs.SpecFiles

/-! When discovery lists the written paths in ascending order. The walk compares the bare names of
one directory's files, and those of its subdirectories, and takes the files first. In a written path
a slash stands behind the name of a directory, and it is that text which decides. -/

namespace EndpointManifest

open Text

namespace Text

theorem before_cons {a b : Char} {s t : Text} :
    Before (a :: s) (b :: t) ↔ a.toNat < b.toNat ∨ a = b ∧ Before s t := by
  by_cases hab : a = b
  · subst hab
    simp [Before, le]
  · simp [Before, le, hab]

theorem before_append_left (u : Text) {s t : Text} : Before (u ++ s) (u ++ t) ↔ Before s t := by
  induction u with
  | nil => rfl
  | cons a u ih => simp [before_cons, ih]

/-- What stands behind two texts does not matter when the first difference lies within them. The
first of them may also end where the second goes on, if nothing stands behind it. -/
theorem before_append_iff {u v s : Text} (hvu : ¬ v <+: u) (huv : s = [] ∨ ¬ u <+: v) (t : Text) :
    Before (u ++ s) (v ++ t) ↔ Before u v := by
  induction u generalizing v with
  | nil =>
    obtain rfl : s = [] := huv.resolve_right fun h => h List.nil_prefix
    obtain ⟨b, v, rfl⟩ := List.exists_cons_of_ne_nil fun h : v = [] => hvu (h ▸ List.nil_prefix)
    simp [Before, le]
  | cons a u ih =>
    obtain ⟨b, v, rfl⟩ := List.exists_cons_of_ne_nil fun h : v = [] => hvu (h ▸ List.nil_prefix)
    rw [List.cons_append, List.cons_append, before_cons, before_cons]
    refine or_congr_right (and_congr_right ?_)
    rintro rfl
    simp only [List.cons_prefix_cons, true_and] at hvu huv
    exact ih hvu huv

theorem join_append {sep : Char} (front : List Text) {parts : List Text} (h : parts ≠ []) :
    join [sep] (front ++ parts) = front.flatMap (· ++ [sep]) ++ join [sep] parts := by
  induction front with
  | nil => rfl
  | cons w front ih =>
    rw [List.cons_append, join_cons (List.append_ne_nil_of_right_ne_nil front h), ih]
    simp

/-- A list in one order is in a second one when the second follows from the first between any two of
its members. -/
theorem pairwise_iff {α : Type} {R S : α → α → Prop} (hasymm : ∀ x y, R x y → ¬ R y x) {l : List α}
    (h : l.Pairwise R) : l.Pairwise S ↔ ∀ x ∈ l, ∀ y ∈ l, R x y → S x y := by
  constructor
  · intro hS
    induction l with
    | nil => simp
    | cons z l ih =>
      obtain ⟨hz, hl⟩ := List.pairwise_cons.1 h
      obtain ⟨hzS, hlS⟩ := List.pairwise_cons.1 hS
      intro x hx y hy hxy
      rcases List.mem_cons.1 hx with rfl | hxl <;> rcases List.mem_cons.1 hy with rfl | hyl
      · exact absurd hxy (hasymm _ _ hxy)
      · exact hzS y hyl
      · exact absurd hxy (hasymm _ _ (hz x hxl))
      · exact ih hl hlS x hxl y hyl hxy
  · intro hS
    exact h.imp_of_mem fun hx hy => hS _ hx _ hy

end Text

/-- The written paths below one path begin alike, and their parts follow. -/
theorem Path.exists_toText_append (p : Path) : ∃ front : Text, ∀ parts : List Text, parts ≠ [] →
    Path.toText { p with parts := p.parts ++ parts } = front ++ join ['/'] parts := by
  obtain ⟨anchor, before⟩ := p
  let front := before.flatMap (· ++ ['/'])
  cases anchor with
  | relative => exact ⟨front, fun parts h => by simp [toText, join_append before h, h, front]⟩
  | root => exact ⟨'/' :: front, fun parts h => by simp [toText, join_append before h, front]⟩
  | doubleRoot =>
    exact ⟨'/' :: '/' :: front, fun parts h => by simp [toText, join_append before h, front]⟩

namespace Discovery

variable {disk : Disk} {suffixes : List Text} {entries : List (Text × Tree)}

theorem precedes_append_left (dirs : List Text) {s t : List Text} (hs : s ≠ []) (ht : t ≠ []) :
    Precedes (dirs ++ s) (dirs ++ t) ↔ Precedes s t := by
  induction dirs with
  | nil => rfl
  | cons dir dirs ih =>
    rw [List.cons_append, List.cons_append, precedes_cons (by simp [hs]) (by simp [ht]), ih]
    simp [Before]

/-- Two files found one behind the other part in some directory: there both are files, or the first
one only is, or both lie in subdirectories. -/
theorem precedes_cases {x y : List Text} (h : Precedes x y) : ∃ dirs,
    (∃ name name', x = dirs ++ [name] ∧ y = dirs ++ [name'] ∧ Before name name') ∨
    (∃ name dir rest, rest ≠ [] ∧ x = dirs ++ [name] ∧ y = dirs ++ dir :: rest) ∨
    ∃ dir dir' rest rest', rest ≠ [] ∧ rest' ≠ [] ∧ x = dirs ++ dir :: rest ∧
      y = dirs ++ dir' :: rest' ∧ Before dir dir' := by
  fun_induction Precedes x y with
  | case1 a b => exact ⟨[], .inl ⟨a, b, rfl, rfl, h⟩⟩
  | case2 a b d t => exact ⟨[], .inr (.inl ⟨a, b, d :: t, by simp, rfl, rfl⟩)⟩
  | case3 a c s b d t ih =>
    rcases h with hab | ⟨rfl, hst⟩
    · exact ⟨[], .inr (.inr ⟨a, b, c :: s, d :: t, by simp, by simp, rfl, rfl, hab⟩)⟩
    · obtain ⟨dirs, hcases⟩ := ih hst
      refine ⟨a :: dirs, hcases.imp ?_ (Or.imp ?_ ?_)⟩
      · rintro ⟨name, name', hx, hy, hbefore⟩
        exact ⟨name, name', congrArg (a :: ·) hx, congrArg (a :: ·) hy, hbefore⟩
      · rintro ⟨name, dir, rest, hne, hx, hy⟩
        exact ⟨name, dir, rest, hne, congrArg (a :: ·) hx, congrArg (a :: ·) hy⟩
      · rintro ⟨dir, dir', rest, rest', hne, hne', hx, hy, hbefore⟩
        exact ⟨dir, dir', rest, rest', hne, hne', congrArg (a :: ·) hx, congrArg (a :: ·) hy,
          hbefore⟩
  | case4 => exact h.elim

theorem before_join_append (dirs : List Text) {s t : List Text} (hs : s ≠ []) (ht : t ≠ []) :
    Before (join ['/'] (dirs ++ s)) (join ['/'] (dirs ++ t)) ↔
      Before (join ['/'] s) (join ['/'] t) := by
  rw [join_append dirs hs, join_append dirs ht, before_append_left]

theorem not_slash_prefix {dir name : Text} (h : '/' ∉ name) (t : Text) :
    ¬ dir ++ '/' :: t <+: name :=
  fun hbegins => h (hbegins.subset (by simp))

theorem before_file_dir {name : Text} (hname : '/' ∉ name) (dir : Text) {rest : List Text}
    (hrest : rest ≠ []) :
    Before (join ['/'] [name]) (join ['/'] (dir :: rest)) ↔ Before name (dir ++ ['/']) := by
  have hnot : ¬ dir ++ ['/'] <+: name := not_slash_prefix hname []
  have h := before_append_iff hnot (.inl rfl) (join ['/'] rest)
  rw [List.append_nil, ← List.append_cons, ← join_cons hrest] at h
  simpa [join] using h

theorem before_dirs {dir dir' : Text} (hdir : '/' ∉ dir) (hdir' : '/' ∉ dir') (hne : dir ≠ dir')
    {rest rest' : List Text} (hrest : rest ≠ []) (hrest' : rest' ≠ []) :
    Before (join ['/'] (dir :: rest)) (join ['/'] (dir' :: rest')) ↔
      Before (dir ++ ['/']) (dir' ++ ['/']) := by
  have hapart : ∀ {u v : Text}, '/' ∉ v → u ≠ v → ¬ u ++ ['/'] <+: v ++ ['/'] := by
    intro u v hv huv hbegins
    rcases List.prefix_concat_iff.1 hbegins with heq | hbegins
    · exact huv (List.append_cancel_right heq)
    · exact not_slash_prefix hv [] hbegins
  rw [join_cons hrest, join_cons hrest', List.append_cons dir, List.append_cons dir',
    before_append_iff (hapart hdir hne.symm) (.inr (hapart hdir' hne))]

/-- The written paths of files in the order of discovery ascend exactly when, wherever two of them
part, a file comes before a directory with its slash, and directories keep their order with it. -/
theorem pairwise_join_iff {found : List (List Text)} (horder : found.Pairwise Precedes)
    (hslash : ∀ parts ∈ found, ∀ part ∈ parts, '/' ∉ part) :
    (found.Pairwise fun x y => Before (join ['/'] x) (join ['/'] y)) ↔
      (∀ dirs name dir rest, rest ≠ [] → dirs ++ [name] ∈ found → dirs ++ dir :: rest ∈ found →
        Before name (dir ++ ['/'])) ∧
      ∀ dirs dir dir' rest rest', rest ≠ [] → rest' ≠ [] → dirs ++ dir :: rest ∈ found →
        dirs ++ dir' :: rest' ∈ found → Before dir dir' →
        Before (dir ++ ['/']) (dir' ++ ['/']) := by
  have hpart : ∀ {front back : List Text} {part : Text}, front ++ part :: back ∈ found →
      '/' ∉ part := fun hmem => hslash _ hmem _ (by simp)
  rw [pairwise_iff (fun _ _ => Precedes.asymm) horder]
  constructor
  · intro hbefore
    refine ⟨fun dirs name dir rest hrest hname hdir => ?_,
      fun dirs dir dir' rest rest' hrest hrest' hdir hdir' hlt => ?_⟩
    · rw [← before_file_dir (hpart hname) dir hrest, ← before_join_append dirs (by simp) (by simp)]
      refine hbefore _ hname _ hdir ?_
      exact (precedes_append_left dirs (by simp) (by simp)).2 (precedes_single hrest)
    · rw [← before_dirs (hpart hdir) (hpart hdir') hlt.2 hrest hrest',
        ← before_join_append dirs (by simp) (by simp)]
      refine hbefore _ hdir _ hdir' ?_
      rw [precedes_append_left dirs (by simp) (by simp), precedes_cons hrest hrest']
      exact .inl hlt
  · rintro ⟨hfile, hdirs⟩ x hx y hy hxy
    obtain ⟨dirs, ⟨name, name', rfl, rfl, hlt⟩ | ⟨name, dir, rest, hrest, rfl, rfl⟩ |
      ⟨dir, dir', rest, rest', hrest, hrest', rfl, rfl, hlt⟩⟩ := precedes_cases hxy
    · rw [before_join_append dirs (by simp) (by simp)]
      simpa [join] using hlt
    · rw [before_join_append dirs (by simp) (by simp), before_file_dir (hpart hx) dir hrest]
      exact hfile dirs name dir rest hrest hx hy
    · rw [before_join_append dirs (by simp) (by simp),
        before_dirs (hpart hx) (hpart hy) hlt.2 hrest hrest']
      exact hdirs dirs dir dir' rest rest' hrest hrest' hx hy hlt

theorem pairwise_filesBelow_iff {tree : Tree} (h : tree.Proper) (path : Path)
    (hnodup : ((filesBelow path suffixes tree).map Path.toText).Nodup) :
    ((filesBelow path suffixes tree).map Path.toText).Pairwise (fun s t => le s t = true) ↔
      ((below suffixes tree).filter fun parts => isListed path parts.dropLast).Pairwise fun x y =>
        Before (join ['/'] x) (join ['/'] y) := by
  obtain ⟨front, hfront⟩ := path.exists_toText_append
  have hstrict : ((filesBelow path suffixes tree).map Path.toText).Pairwise
      (fun s t => le s t = true) ↔
      ((filesBelow path suffixes tree).map Path.toText).Pairwise Before :=
    ⟨fun hle => hle.and hnodup, fun hbefore => hbefore.imp And.left⟩
  rw [hstrict, filesBelow, List.map_map, List.pairwise_map]
  refine List.Pairwise.iff_of_mem ?_
  intro x y hx hy
  have hx := ne_nil_of_mem_below h (List.mem_of_mem_filter hx)
  have hy := ne_nil_of_mem_below h (List.mem_of_mem_filter hy)
  simp only [Function.comp, hfront x hx, hfront y hy, before_append_left]

/-- Discovery lists the files in the order of its walk, unless this is given up. Their written paths
ascend exactly when two things hold wherever the ways to found files part: a file comes before each
subdirectory beside it, and two subdirectories keep their order, when the name of a subdirectory is
taken with the slash that stands behind it. -/
theorem specFiles_ascending_iff (hproper : disk.top.Proper) {t : Text}
    (hroot : disk.node? (.ofText t) = some (.dir entries)) (suffixes : List Text) :
    let path := Path.ofText t
    let under := fun parts : List Text => ({ path with parts := path.parts ++ parts } : Path)
    ((∃ dirs, Enters path (.dir entries) dirs ∧ disk.room.walk < dirs.length) ∧
      specFiles disk path suffixes = .error .tooDeep) ∨
    ∃ found : List (List Text), specFiles disk path suffixes = .ok (found.map under) ∧
      found.Pairwise Precedes ∧
      (((found.map under).map Path.toText).Pairwise (fun s t => le s t = true) ↔
        (∀ dirs name dir rest, rest ≠ [] → dirs ++ [name] ∈ found → dirs ++ dir :: rest ∈ found →
          Before name (dir ++ ['/'])) ∧
        ∀ dirs dir dir' rest rest', rest ≠ [] → rest' ≠ [] → dirs ++ dir :: rest ∈ found →
          dirs ++ dir' :: rest' ∈ found → Before dir dir' →
          Before (dir ++ ['/']) (dir' ++ ['/'])) := by
  intro path under
  have hentries := proper_of_node? hproper hroot
  have hfound := specFiles_of_node? suffixes hroot
  by_cases hdeep : isTooDeep disk.room.walk path (.dir entries) = true
  · rw [if_pos hdeep] at hfound
    exact .inl ⟨(isTooDeep_iff hentries).1 hdeep, hfound⟩
  rw [if_neg hdeep] at hfound
  have hpath : ∀ part ∈ path.parts, Path.IsPart part := fun _ => Path.isPart_of_mem_ofText
  have horder : ((below suffixes (.dir entries)).filter
      fun parts => isListed path parts.dropLast).Pairwise Precedes :=
    (pairwise_below hentries).filter _
  refine .inr ⟨_, hfound, horder, ?_⟩
  refine (pairwise_filesBelow_iff hentries path (nodup_toText_filesBelow hentries hpath)).trans
    (pairwise_join_iff horder fun parts hparts part hpart => ?_)
  have hmem : under parts ∈ filesBelow path suffixes (.dir entries) := List.mem_map_of_mem hparts
  have hin : part ∈ (under parts).parts := List.mem_append_right _ hpart
  exact (isPart_of_mem_filesBelow hentries hpath hmem part hin).slashless

/-- A file that shares the beginning of its name with the directory beside it, where a dot comes
before the slash. -/
theorem specFiles_ascending_iff_dot :
    let empty : Tree := .file []
    let sub : Text × Tree := ("a".toList, .dir [("b.ts".toList, empty)])
    let own : Text × Tree := ("a.ts".toList, empty)
    let disk : Disk := { top := .dir [("tests".toList, .dir [sub, own])] }
    let path := Path.ofText "tests".toList
    disk.top.Proper ∧ disk.node? path = some (.dir [sub, own]) ∧
      ∃ files, specFiles disk path [".ts".toList] = .ok files ∧
        files.map Path.toText = ["tests/a.ts".toList, "tests/a/b.ts".toList] ∧
        Before "a.ts".toList "a/".toList := by
  intro empty sub own disk path
  have hproper : disk.top.Proper := by decide
  have hroot : disk.node? path = some (.dir [sub, own]) := by rfl
  have hlist : (specFiles disk path [".ts".toList]).toOption = some
      ([["a.ts".toList], ["a".toList, "b.ts".toList]].map fun parts =>
        { path with parts := path.parts ++ parts }) := by decide +kernel
  obtain ⟨_, herror⟩ | ⟨found, hfiles, _, hiff⟩ :=
    specFiles_ascending_iff hproper hroot [".ts".toList]
  · rw [show specFiles disk path [".ts".toList] = .error .tooDeep from herror] at hlist
    cases hlist
  obtain rfl : found = [["a.ts".toList], ["a".toList, "b.ts".toList]] := by
    rw [hfiles] at hlist
    refine List.map_injective_iff.2 ?_ (Option.some.inj hlist)
    intro parts parts' heq
    exact List.append_cancel_left (congrArg Path.parts heq)
  refine ⟨hproper, hroot, _, hfiles, by decide +kernel, ?_⟩
  exact (hiff.1 (by decide +kernel)).1 [] "a.ts".toList "a".toList ["b.ts".toList] (by simp)
    (by simp) (by simp)

/-- A file stands in the directory, and another one in a subdirectory whose name comes first. -/
theorem specFiles_ascending_iff_file :
    let empty : Tree := .file []
    let sub : Text × Tree := ("a".toList, .dir [("b.ts".toList, empty)])
    let own : Text × Tree := ("z.ts".toList, empty)
    let disk : Disk := { top := .dir [("tests".toList, .dir [sub, own])] }
    let path := Path.ofText "tests".toList
    disk.top.Proper ∧ disk.node? path = some (.dir [sub, own]) ∧
      ∃ files, specFiles disk path [".ts".toList] = .ok files ∧
        files.map Path.toText = ["tests/z.ts".toList, "tests/a/b.ts".toList] ∧
        ¬ (files.map Path.toText).Pairwise fun s t => le s t = true := by
  intro empty sub own disk path
  exact ⟨by decide, rfl, _, rfl, by decide +kernel, by decide +kernel⟩

end Discovery
end EndpointManifest
