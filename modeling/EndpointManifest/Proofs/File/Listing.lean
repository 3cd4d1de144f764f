import EndpointManifest.Proofs.File.Disk

/-! Trees that differ in nothing but the order in which directories list their entries. What stands
at a location of the one stands at the same location of the other, again but for such an order. -/

namespace EndpointManifest.Tree

/-- The second tree is the first with the entries of some directories in another order. -/
inductive Relisted : Tree → Tree → Prop
  | refl (tree : Tree) : Relisted tree tree
  | trans {a b c : Tree} (first : Relisted a b) (second : Relisted b c) : Relisted a c
  | perm {entries entries' : List (Text × Tree)} (h : entries.Perm entries') :
      Relisted (.dir entries) (.dir entries')
  | child {front back : List (Text × Tree)} {name : Text} {node node' : Tree}
      (h : Relisted node node') :
      Relisted (.dir (front ++ (name, node) :: back)) (.dir (front ++ (name, node') :: back))

theorem Proper.get?_cons_eq_some {entries : List (Text × Tree)} (h : Proper (Tree.dir entries))
    {name : Text} {rest : List Text} {node : Tree} :
    Tree.get? (.dir entries) (name :: rest) = some node ↔
      ∃ child, (name, child) ∈ entries ∧ child.get? rest = some node := by
  cases h with
  | dir nodup names children =>
    rw [get?_cons_dir, Option.bind_eq_some_iff]
    simp only [lookup_eq_some nodup]

namespace Relisted

variable {a b : Tree}

theorem symm (h : Relisted a b) : Relisted b a := by
  induction h with
  | refl tree => exact .refl tree
  | trans _ _ ihFirst ihSecond => exact .trans ihSecond ihFirst
  | perm h => exact .perm h.symm
  | child _ ih => exact .child ih

theorem eq_file_iff (h : Relisted a b) {octets : List UInt8} :
    a = .file octets ↔ b = .file octets := by
  induction h with
  | refl tree => exact Iff.rfl
  | trans _ _ ihFirst ihSecond => exact ihFirst.trans ihSecond
  | perm h => exact ⟨Tree.noConfusion, Tree.noConfusion⟩
  | child _ ih => exact ⟨Tree.noConfusion, Tree.noConfusion⟩

theorem proper (h : Relisted a b) (ha : a.Proper) : b.Proper := by
  induction h with
  | refl tree => exact ha
  | trans _ _ ihFirst ihSecond => exact ihSecond (ihFirst ha)
  | perm h =>
    cases ha with
    | dir nodup names children =>
      exact .dir ((h.map Prod.fst).nodup_iff.1 nodup)
        (fun entry hmem => names entry (h.mem_iff.2 hmem))
        fun entry hmem => children entry (h.mem_iff.2 hmem)
  | child _ ih =>
    cases ha with
    | dir nodup names children =>
      simp only [List.mem_append, List.mem_cons, or_imp, forall_and, forall_eq] at names children
      refine .dir (by simpa using nodup) ?_ ?_
      · simp only [List.mem_append, List.mem_cons, or_imp, forall_and, forall_eq]
        exact names
      · simp only [List.mem_append, List.mem_cons, or_imp, forall_and, forall_eq]
        exact ⟨children.1, ih children.2.1, children.2.2⟩

theorem get? (h : Relisted a b) (ha : a.Proper) {location : List Text} {node : Tree}
    (hget : a.get? location = some node) :
    ∃ node', b.get? location = some node' ∧ Relisted node node' := by
  induction h generalizing location node with
  | refl tree => exact ⟨node, hget, .refl node⟩
  | trans first _ ihFirst ihSecond =>
    obtain ⟨middle, hmiddle, hnode⟩ := ihFirst ha hget
    obtain ⟨node', hget', hnode'⟩ := ihSecond (first.proper ha) hmiddle
    exact ⟨node', hget', .trans hnode hnode'⟩
  | perm h =>
    cases location with
    | nil =>
      obtain rfl := Option.some.inj hget
      exact ⟨_, rfl, .perm h⟩
    | cons first rest =>
      obtain ⟨found, hmem, hrest⟩ := ha.get?_cons_eq_some.1 hget
      have hb := (Relisted.perm h).proper ha
      exact ⟨node, hb.get?_cons_eq_some.2 ⟨found, h.mem_iff.1 hmem, hrest⟩, .refl node⟩
  | @child front back name child child' h ih =>
    have hb := (Relisted.child h).proper ha
    cases location with
    | nil =>
      obtain rfl := Option.some.inj hget
      exact ⟨_, rfl, .child h⟩
    | cons first rest =>
      obtain ⟨found, hmem, hrest⟩ := ha.get?_cons_eq_some.1 hget
      simp only [List.mem_append, List.mem_cons, Prod.mk.injEq] at hmem
      by_cases hother : (first, found) ∈ front ∨ (first, found) ∈ back
      · have hmem' : (first, found) ∈ front ++ (name, child') :: back := by
          simp only [List.mem_append, List.mem_cons]
          exact hother.imp_right .inr
        exact ⟨node, hb.get?_cons_eq_some.2 ⟨found, hmem', hrest⟩, .refl node⟩
      · have hchanged : first = name ∧ found = child := by tauto
        obtain ⟨rfl, rfl⟩ := hchanged
        have hchild : found.Proper := by
          cases ha with
          | dir nodup names children => exact children (first, found) (by simp)
        obtain ⟨node', hget', hnode⟩ := ih hchild hrest
        exact ⟨node', hb.get?_cons_eq_some.2 ⟨child', by simp, hget'⟩, hnode⟩

theorem fileAt?_eq_some (h : Relisted a b) (ha : a.Proper) {location : List Text}
    {octets : List UInt8} (hfile : a.fileAt? location = some octets) :
    b.fileAt? location = some octets := by
  obtain ⟨node', hget', hnode⟩ := h.get? ha (Tree.fileAt?_eq_some.1 hfile)
  obtain rfl := hnode.eq_file_iff.1 rfl
  exact Tree.fileAt?_eq_some.2 hget'

/-- The same directories and the same files stand at the same locations. -/
theorem grows (h : Relisted a b) (ha : a.Proper) : Grows (fun _ => False) a b := by
  have hfiles : ∀ location, b.fileAt? location = a.fileAt? location := fun location =>
    Option.ext fun octets =>
      ⟨h.symm.fileAt?_eq_some (h.proper ha), h.fileAt?_eq_some ha⟩
  refine ⟨?_, fun location hfile => (hfiles location).symm ▸ hfile, fun location _ => hfiles location⟩
  rintro location ⟨entries, hget⟩
  obtain ⟨node', hget', hnode⟩ := h.get? ha hget
  cases node' with
  | dir entries' => exact ⟨entries', hget'⟩
  | file octets => cases hnode.eq_file_iff.2 rfl

end Relisted
end EndpointManifest.Tree
