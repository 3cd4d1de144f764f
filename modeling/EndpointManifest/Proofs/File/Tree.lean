import EndpointManifest.File.Tree
import EndpointManifest.Proofs.File.Path

/-! What a change at one location leaves as it was elsewhere, and what a tree keeps while it grows:
its directories, and its files but for some that are written. -/

namespace EndpointManifest.Tree

def DirAt (tree : Tree) (location : List Text) : Prop :=
  ∃ entries, tree.get? location = some (.dir entries)

/-- The bytes of the file at a location, if a file stands there. -/
def fileAt? (tree : Tree) (location : List Text) : Option (List UInt8) :=
  match tree.get? location with
  | some (.file octets) => some octets
  | _ => none

theorem fileAt?_eq_some {tree : Tree} {location : List Text} {octets : List UInt8} :
    tree.fileAt? location = some octets ↔ tree.get? location = some (.file octets) := by
  unfold fileAt?
  split
  · next h => simp [h]
  · next h => simpa using h octets

theorem get?_cons_dir (name : Text) (rest : List Text) (entries : List (Text × Tree)) :
    get? (.dir entries) (name :: rest) = (entries.lookup name).bind (·.get? rest) := by
  rw [get?, child?]
  cases entries.lookup name <;> rfl

theorem get?_append (tree : Tree) (location rest : List Text) :
    tree.get? (location ++ rest) = (tree.get? location).bind (·.get? rest) := by
  induction location generalizing tree with
  | nil => rfl
  | cons name location ih =>
    cases tree with
    | file octets => rfl
    | dir entries =>
      rw [List.cons_append, get?_cons_dir, get?_cons_dir]
      cases entries.lookup name with
      | none => rfl
      | some child => exact ih child

theorem get?_concat {tree : Tree} {location : List Text} {entries : List (Text × Tree)}
    (h : tree.get? location = some (.dir entries)) (name : Text) :
    tree.get? (location ++ [name]) = entries.lookup name := by
  rw [get?_append, h, Option.bind_some, get?_cons_dir]
  cases entries.lookup name <;> rfl

theorem fileAt?_append {tree node : Tree} {location : List Text}
    (h : tree.get? location = some node) (rest : List Text) :
    tree.fileAt? (location ++ rest) = node.fileAt? rest := by
  unfold fileAt?
  rw [get?_append, h, Option.bind_some]

theorem dirAt_append {tree node : Tree} {location : List Text}
    (h : tree.get? location = some node) (rest : List Text) :
    tree.DirAt (location ++ rest) ↔ node.DirAt rest := by
  rw [DirAt, DirAt, get?_append, h, Option.bind_some]

theorem dirAt_of_get?_append {tree node : Tree} {location rest : List Text} (hrest : rest ≠ [])
    (h : tree.get? (location ++ rest) = some node) : tree.DirAt location := by
  rw [get?_append] at h
  obtain ⟨above, habove, h⟩ := Option.bind_eq_some_iff.1 h
  cases above with
  | dir entries => exact ⟨entries, habove⟩
  | file octets =>
    obtain ⟨name, rest, rfl⟩ := List.exists_cons_of_ne_nil hrest
    cases h

theorem dirAt_dropLast {tree : Tree} {location : List Text} (h : tree.DirAt location) :
    tree.DirAt location.dropLast := by
  obtain rfl | ⟨above, name, rfl⟩ := List.eq_nil_or_concat' location
  · exact h
  · obtain ⟨entries, hget⟩ := h
    rw [List.dropLast_concat]
    exact dirAt_of_get?_append (List.cons_ne_nil name []) hget

theorem dirAt_nil {tree : Tree} {location : List Text} (h : tree.DirAt location) :
    tree.DirAt [] := by
  cases location with
  | nil => exact h
  | cons name rest =>
    obtain ⟨entries, hget⟩ := h
    exact dirAt_of_get?_append (List.cons_ne_nil name rest) hget

section Put

variable {node tree : Tree} {location : List Text} {name : Text}

theorem lookup_putEntry_self (name : Text) (node : Tree) (entries : List (Text × Tree)) :
    (putEntry name node entries).lookup name = some node := by
  induction entries with
  | nil => simp [putEntry]
  | cons entry rest ih =>
    obtain ⟨n, t⟩ := entry
    rw [putEntry]
    split
    · next h => simp [h]
    · next h =>
      have hne : (name == n) = false := beq_eq_false_iff_ne.2 (Ne.symm h)
      rw [List.lookup_cons, hne]
      exact ih

theorem lookup_putEntry_of_ne {other : Text} (h : other ≠ name) (node : Tree)
    (entries : List (Text × Tree)) :
    (putEntry name node entries).lookup other = entries.lookup other := by
  induction entries with
  | nil =>
    have hne : (other == name) = false := beq_eq_false_iff_ne.2 h
    rw [putEntry, List.lookup_cons, hne]
  | cons entry rest ih =>
    obtain ⟨n, t⟩ := entry
    rw [putEntry]
    split
    · next hn =>
      have hne : (other == n) = false := beq_eq_false_iff_ne.2 (hn ▸ h)
      rw [List.lookup_cons, List.lookup_cons, hne]
    · rw [List.lookup_cons, List.lookup_cons, ih]

theorem putEntry_of_lookup {entries : List (Text × Tree)} (h : entries.lookup name = some node) :
    putEntry name node entries = entries := by
  induction entries with
  | nil => cases h
  | cons entry rest ih =>
    obtain ⟨n, t⟩ := entry
    rw [putEntry]
    rw [List.lookup_cons] at h
    split
    · next hn =>
      rw [hn, beq_self_eq_true] at h
      rw [Option.some.inj h]
    · next hn =>
      rw [beq_eq_false_iff_ne.2 (Ne.symm hn)] at h
      rw [ih h]

theorem mem_putEntry {entry : Text × Tree} {entries : List (Text × Tree)}
    (h : entry ∈ putEntry name node entries) : entry = (name, node) ∨ entry ∈ entries := by
  induction entries with
  | nil => exact .inl (List.mem_singleton.1 h)
  | cons first rest ih =>
    obtain ⟨n, t⟩ := first
    rw [putEntry] at h
    split at h
    · next hn =>
      rcases List.mem_cons.1 h with rfl | h
      · exact .inl (by rw [hn])
      · exact .inr (List.mem_cons_of_mem _ h)
    · rcases List.mem_cons.1 h with rfl | h
      · exact .inr (List.mem_cons_self ..)
      · exact (ih h).imp_right (List.mem_cons_of_mem _)

theorem put_cons {entries : List (Text × Tree)} {child : Tree} {rest : List Text}
    (hrest : rest ≠ []) (h : entries.lookup name = some child) :
    put node (name :: rest) (.dir entries) =
      .dir (putEntry name (put node rest child) entries) := by
  obtain ⟨next, rest, rfl⟩ := List.exists_cons_of_ne_nil hrest
  simp [put, h]

theorem exists_child {entries : List (Text × Tree)} {rest : List Text}
    (h : DirAt (.dir entries) (name :: rest)) :
    ∃ child, entries.lookup name = some child ∧ child.DirAt rest := by
  obtain ⟨found, h⟩ := h
  rw [get?_cons_dir] at h
  obtain ⟨child, hchild, h⟩ := Option.bind_eq_some_iff.1 h
  exact ⟨child, hchild, found, h⟩

theorem get?_put_append (h : tree.DirAt location) (rest : List Text) :
    (put node (location ++ [name]) tree).get? (location ++ [name] ++ rest) = node.get? rest := by
  induction location generalizing tree with
  | nil =>
    obtain ⟨entries, h⟩ := h
    obtain rfl := Option.some.inj h
    rw [List.nil_append, put, List.singleton_append, get?_cons_dir, lookup_putEntry_self,
      Option.bind_some]
  | cons first location ih =>
    cases tree with
    | file octets => obtain ⟨_, h⟩ := h; cases h
    | dir entries =>
      obtain ⟨child, hchild, h⟩ := exists_child h
      rw [List.cons_append, put_cons (by simp) hchild, List.cons_append, get?_cons_dir,
        lookup_putEntry_self, Option.bind_some]
      exact ih h

theorem get?_put_self (h : tree.DirAt location) :
    (put node (location ++ [name]) tree).get? (location ++ [name]) = some node := by
  have hself :
      (put node (location ++ [name]) tree).get? (location ++ [name] ++ []) = node.get? [] :=
    get?_put_append h []
  rwa [List.append_nil] at hself

/-- Away from the location and what is below it, every file and every directory stays. -/
theorem put_elsewhere (h : tree.DirAt location) {other : List Text}
    (hother : ¬ location ++ [name] <+: other) :
    (put node (location ++ [name]) tree).fileAt? other = tree.fileAt? other ∧
      ((put node (location ++ [name]) tree).DirAt other ↔ tree.DirAt other) := by
  induction location generalizing tree other with
  | nil =>
    obtain ⟨entries, h⟩ := h
    obtain rfl := Option.some.inj h
    cases other with
    | nil => simp [put, fileAt?, DirAt, get?]
    | cons first other =>
      have hne : first ≠ name := by
        rintro rfl
        exact hother ⟨other, rfl⟩
      have hsame : get? (put node ([] ++ [name]) (.dir entries)) (first :: other) =
          get? (.dir entries) (first :: other) := by
        rw [List.nil_append, put, get?_cons_dir, get?_cons_dir, lookup_putEntry_of_ne hne]
      simp only [fileAt?, DirAt, hsame, and_self]
  | cons next location ih =>
    cases tree with
    | file octets => obtain ⟨_, h⟩ := h; cases h
    | dir entries =>
      obtain ⟨child, hchild, hbelow⟩ := exists_child h
      rw [List.cons_append, put_cons (by simp) hchild]
      cases other with
      | nil => simp [fileAt?, DirAt, get?]
      | cons first other =>
        by_cases hfirst : first = next
        · subst hfirst
          have hother : ¬ location ++ [name] <+: other := by
            rintro ⟨rest, rfl⟩
            exact hother ⟨rest, rfl⟩
          have ih := ih hbelow hother
          simp only [fileAt?, DirAt, get?_cons_dir, lookup_putEntry_self, hchild,
            Option.bind_some] at ih ⊢
          exact ih
        · simp only [fileAt?, DirAt, get?_cons_dir, lookup_putEntry_of_ne hfirst, and_self]

theorem put_of_get? (h : tree.get? (location ++ [name]) = some node) :
    put node (location ++ [name]) tree = tree := by
  induction location generalizing tree with
  | nil =>
    cases tree with
    | file octets => cases h
    | dir entries =>
      rw [List.nil_append, get?_cons_dir] at h
      obtain ⟨child, hchild, h⟩ := Option.bind_eq_some_iff.1 h
      obtain rfl := Option.some.inj h
      rw [List.nil_append, put, putEntry_of_lookup hchild]
  | cons first location ih =>
    cases tree with
    | file octets => cases h
    | dir entries =>
      rw [List.cons_append, get?_cons_dir] at h
      obtain ⟨child, hchild, h⟩ := Option.bind_eq_some_iff.1 h
      rw [List.cons_append, put_cons (by simp) hchild, ih h, putEntry_of_lookup hchild]

end Put

/-- In a proper tree every entry of a directory has a name of its own that a path can have as a
part. -/
inductive Proper : Tree → Prop
  | file (octets : List UInt8) : Proper (.file octets)
  | dir {entries : List (Text × Tree)} (nodup : (entries.map (·.1)).Nodup)
      (names : ∀ entry ∈ entries, Path.IsName entry.1)
      (children : ∀ entry ∈ entries, Proper entry.2) : Proper (.dir entries)

mutual

def isProper : Tree → Bool
  | .file _ => true
  | .dir entries => decide (entries.map (·.1)).Nodup && areProper entries

def areProper : List (Text × Tree) → Bool
  | [] => true
  | (name, node) :: rest => decide (Path.IsName name) && isProper node && areProper rest

end

theorem areProper_iff {entries : List (Text × Tree)} :
    areProper entries = true ↔
      ∀ entry ∈ entries, Path.IsName entry.1 ∧ entry.2.isProper = true := by
  induction entries with
  | nil => simp [areProper]
  | cons entry rest ih =>
    simp only [areProper, Bool.and_eq_true, decide_eq_true_eq, ih, List.forall_mem_cons]

mutual

theorem Proper.of_isProper : ∀ {tree : Tree}, tree.isProper = true → tree.Proper
  | .file octets, _ => .file octets
  | .dir entries, h => by
    simp only [isProper, Bool.and_eq_true, decide_eq_true_eq] at h
    have hentries := Proper.of_areProper h.2
    exact .dir h.1 (fun entry hentry => (hentries entry hentry).1)
      fun entry hentry => (hentries entry hentry).2

theorem Proper.of_areProper : ∀ {entries : List (Text × Tree)}, areProper entries = true →
    ∀ entry ∈ entries, Path.IsName entry.1 ∧ entry.2.Proper
  | [], _ => by simp
  | (name, node) :: rest, h => by
    simp only [areProper, Bool.and_eq_true, decide_eq_true_eq] at h
    exact List.forall_mem_cons.2 ⟨⟨h.1.1, Proper.of_isProper h.1.2⟩, Proper.of_areProper h.2⟩

end

theorem isProper_iff {tree : Tree} : tree.isProper = true ↔ tree.Proper := by
  refine ⟨Proper.of_isProper, fun h => ?_⟩
  induction h with
  | file octets => rfl
  | dir nodup names children ih =>
    simp only [isProper, Bool.and_eq_true, decide_eq_true_eq, areProper_iff]
    exact ⟨nodup, fun entry hentry => ⟨names entry hentry, ih entry hentry⟩⟩

instance (tree : Tree) : Decidable tree.Proper := decidable_of_iff _ isProper_iff

namespace Proper

theorem lookup_eq_some {entries : List (Text × Tree)} (h : (entries.map (·.1)).Nodup) {name : Text}
    {node : Tree} : entries.lookup name = some node ↔ (name, node) ∈ entries := by
  induction entries with
  | nil => simp
  | cons entry rest ih =>
    obtain ⟨n, t⟩ := entry
    obtain ⟨hnew, hrest⟩ := List.nodup_cons.1 h
    by_cases hname : name = n
    · subst hname
      have hnot : (name, node) ∉ rest := fun hmem => hnew (List.mem_map.2 ⟨_, hmem, rfl⟩)
      simp [hnot, eq_comm]
    · have hne : (name == n) = false := beq_eq_false_iff_ne.2 hname
      simp [List.lookup_cons, hne, hname, ih hrest]

theorem isName_and_child {entries : List (Text × Tree)} (h : Proper (.dir entries)) {name : Text}
    {node : Tree} (hlookup : entries.lookup name = some node) : Path.IsName name ∧ node.Proper := by
  cases h with
  | dir nodup names children =>
    have hmem := (lookup_eq_some nodup).1 hlookup
    exact ⟨names _ hmem, children _ hmem⟩

theorem get? {tree node : Tree} {location : List Text} (h : tree.Proper)
    (hget : tree.get? location = some node) :
    (∀ name ∈ location, Path.IsName name) ∧ node.Proper := by
  induction location generalizing tree with
  | nil =>
    obtain rfl := Option.some.inj hget
    exact ⟨by simp, h⟩
  | cons name location ih =>
    cases tree with
    | file octets => cases hget
    | dir entries =>
      rw [get?_cons_dir] at hget
      obtain ⟨child, hchild, hget⟩ := Option.bind_eq_some_iff.1 hget
      obtain ⟨hname, hproper⟩ := h.isName_and_child hchild
      obtain ⟨hnames, hnode⟩ := ih hproper hget
      exact ⟨List.forall_mem_cons.2 ⟨hname, hnames⟩, hnode⟩

theorem putEntry {node : Tree} {name : Text} {entries : List (Text × Tree)}
    (h : Proper (.dir entries)) (hname : Path.IsName name) (hnode : node.Proper) :
    Proper (.dir (Tree.putEntry name node entries)) := by
  cases h with
  | dir nodup names children =>
    refine .dir ?_ ?_ ?_
    · have hnames : (Tree.putEntry name node entries).map (·.1) =
          if name ∈ entries.map (·.1) then entries.map (·.1) else entries.map (·.1) ++ [name] := by
        clear nodup names children
        induction entries with
        | nil => simp [Tree.putEntry]
        | cons entry rest ih =>
          obtain ⟨n, t⟩ := entry
          rw [Tree.putEntry]
          by_cases hn : n = name
          · simp [hn]
          · simp only [if_neg hn, List.map_cons, ih, List.mem_cons, Ne.symm hn, false_or]
            split <;> rfl
      rw [hnames]
      split
      · exact nodup
      · next hnew =>
        refine List.nodup_append.2 ⟨nodup, by simp, ?_⟩
        intro n hn m hm heq
        exact hnew (List.mem_singleton.1 hm ▸ heq ▸ hn)
    · intro entry hentry
      rcases mem_putEntry hentry with rfl | hentry
      · exact hname
      · exact names entry hentry
    · intro entry hentry
      rcases mem_putEntry hentry with rfl | hentry
      · exact hnode
      · exact children entry hentry

theorem put {node tree : Tree} {location : List Text} {name : Text} (h : tree.Proper)
    (hdir : tree.DirAt location) (hname : Path.IsName name) (hnode : node.Proper) :
    (Tree.put node (location ++ [name]) tree).Proper := by
  induction location generalizing tree with
  | nil =>
    cases tree with
    | file octets => obtain ⟨_, hdir⟩ := hdir; cases hdir
    | dir entries => exact h.putEntry hname hnode
  | cons first location ih =>
    cases tree with
    | file octets => obtain ⟨_, hdir⟩ := hdir; cases hdir
    | dir entries =>
      obtain ⟨child, hchild, hbelow⟩ := exists_child hdir
      obtain ⟨hfirst, hproper⟩ := h.isName_and_child hchild
      rw [List.cons_append, put_cons (by simp) hchild]
      exact h.putEntry hfirst (ih hproper hbelow)

end Proper

/-- The first tree becomes the second: every directory stays one, every file stays one, and only the
files that are to be written are new or changed. -/
structure Grows (written : List Text → Prop) (before after : Tree) : Prop where
  dirs : ∀ location, before.DirAt location → after.DirAt location
  files : ∀ location, (before.fileAt? location).isSome → (after.fileAt? location).isSome
  others : ∀ location, ¬ written location → after.fileAt? location = before.fileAt? location

namespace Grows

variable {written written' : List Text → Prop} {a b c : Tree}

theorem refl (written : List Text → Prop) (a : Tree) : Grows written a a :=
  ⟨fun _ h => h, fun _ h => h, fun _ _ => rfl⟩

theorem trans (hab : Grows written a b) (hbc : Grows written b c) : Grows written a c :=
  ⟨fun l h => hbc.dirs l (hab.dirs l h), fun l h => hbc.files l (hab.files l h),
    fun l h => (hbc.others l h).trans (hab.others l h)⟩

theorem mono (h : Grows written a b) (hsub : ∀ l, written l → written' l) : Grows written' a b :=
  ⟨h.dirs, h.files, fun l hl => h.others l fun hw => hl (hsub l hw)⟩

theorem put_dir {location : List Text} {name : Text} (hdir : a.DirAt location)
    (hfree : a.get? (location ++ [name]) = none) :
    Grows (fun _ => False) a (put (.dir []) (location ++ [name]) a) := by
  have hnone : ∀ rest, a.get? (location ++ [name] ++ rest) = none := by
    intro rest
    rw [get?_append, hfree, Option.bind_none]
  have hfiles : ∀ l, (put (.dir []) (location ++ [name]) a).fileAt? l = a.fileAt? l := by
    intro l
    by_cases hl : location ++ [name] <+: l
    · obtain ⟨rest, rfl⟩ := hl
      rw [fileAt?, fileAt?, get?_put_append hdir, hnone]
      cases rest <;> rfl
    · exact (put_elsewhere hdir hl).1
  refine ⟨?_, fun l h => by rwa [hfiles], fun l _ => hfiles l⟩
  intro l h
  by_cases hl : location ++ [name] <+: l
  · obtain ⟨rest, rfl⟩ := hl
    obtain ⟨entries, h⟩ := h
    rw [hnone] at h
    cases h
  · exact (put_elsewhere hdir hl).2.2 h

theorem put_file {location : List Text} {name : Text} {octets : List UInt8}
    (hdir : a.DirAt location) (hfree : ¬ a.DirAt (location ++ [name])) :
    Grows (· = location ++ [name]) a (put (.file octets) (location ++ [name]) a) := by
  have hself : (put (.file octets) (location ++ [name]) a).get? (location ++ [name]) =
      some (.file octets) := get?_put_self hdir
  have hbelow : ∀ rest, rest ≠ [] → a.get? (location ++ [name] ++ rest) = none := by
    intro rest hrest
    refine Option.eq_none_iff_forall_not_mem.2 fun node h => hfree ?_
    exact dirAt_of_get?_append hrest h
  have hothers : ∀ l, l ≠ location ++ [name] →
      (put (.file octets) (location ++ [name]) a).fileAt? l = a.fileAt? l := by
    intro l hne
    by_cases hl : location ++ [name] <+: l
    · obtain ⟨rest, rfl⟩ := hl
      have hrest : rest ≠ [] := by
        rintro rfl
        exact hne (List.append_nil _)
      rw [fileAt?, fileAt?, get?_put_append hdir, hbelow rest hrest]
      obtain ⟨first, rest, rfl⟩ := List.exists_cons_of_ne_nil hrest
      rfl
    · exact (put_elsewhere hdir hl).1
  refine ⟨?_, ?_, hothers⟩
  · intro l h
    by_cases hl : location ++ [name] <+: l
    · obtain ⟨rest, rfl⟩ := hl
      by_cases hrest : rest = []
      · rw [hrest, List.append_nil] at h
        exact absurd h hfree
      · obtain ⟨entries, h⟩ := h
        rw [hbelow rest hrest] at h
        cases h
    · exact (put_elsewhere hdir hl).2.2 h
  · intro l h
    by_cases hl : l = location ++ [name]
    · rw [hl, fileAt?_eq_some.2 hself]
      rfl
    · rwa [hothers l hl]

theorem isSome_get? (h : Grows written a b) {location : List Text}
    (hsome : (a.get? location).isSome) : (b.get? location).isSome := by
  obtain ⟨node, hnode⟩ := Option.isSome_iff_exists.1 hsome
  cases node with
  | dir entries =>
    obtain ⟨found, hfound⟩ := h.dirs location ⟨entries, hnode⟩
    simp [hfound]
  | file octets =>
    have hfile := h.files location (by rw [fileAt?_eq_some.2 hnode]; rfl)
    obtain ⟨found, hfound⟩ := Option.isSome_iff_exists.1 hfile
    simp [fileAt?_eq_some.1 hfound]

theorem get?_file (h : Grows written a b) {location : List Text} {octets : List UInt8}
    (hfile : a.get? location = some (.file octets)) (hother : ¬ written location) :
    b.get? location = some (.file octets) := by
  rw [← fileAt?_eq_some, h.others location hother]
  exact fileAt?_eq_some.2 hfile

end Grows

end EndpointManifest.Tree
