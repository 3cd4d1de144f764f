import EndpointManifest.Proofs.Options.Scan

/-! The keys outside a block do not depend on what the block holds. What the scan meets before a
bracket is decided by the text before it, for no key and no name reaches over a bracket; the block
is passed over whole; and from there on only the text behind it is read. -/

namespace EndpointManifest

open Text

namespace Key

def stopsFrom (pos : Nat) (t : Text) : List Nat :=
  match t with
  | [] => []
  | c :: rest =>
    match step c rest with
    | .unclosed => [pos]
    | .skip after | .key _ after =>
      if after.length ≤ rest.length then
        pos :: stopsFrom (pos + (rest.length + 1 - after.length)) after
      else [pos]
termination_by t.length
decreasing_by all_goals simp only [List.length_cons]; omega

def stops (options : Text) : List Nat :=
  match options with
  | '{' :: rest => stopsFrom 1 rest
  | _ => stopsFrom 0 options

def shift (d : Nat) (key : Key) : Key :=
  { key with start := key.start + d, valueStart := key.valueStart + d }

theorem scanFrom_shift (pos d : Nat) (t : Text) :
    scanFrom (pos + d) t = (scanFrom pos t).map (shift d) := by
  fun_induction scanFrom pos t with
  | case1 pos => simp [scanFrom]
  | case2 pos c rest h => simp [scanFrom, h]
  | case3 pos c rest after h hle ih =>
    rw [scanFrom, h]
    simp only [if_pos hle]
    rw [← ih, Nat.add_right_comm]
  | case4 pos c rest after h hle => simp [scanFrom, h, hle]
  | case5 pos c rest name after h hle stop ih =>
    rw [scanFrom, h]
    simp only [if_pos hle, List.map_cons]
    rw [← ih, Nat.add_right_comm]
    rfl
  | case6 pos c rest name after h hle => simp [scanFrom, h, hle]

def Opens (v : Text) : Prop := ∃ o rest, v = o :: rest ∧ Delimiter.isOpener o = true

theorem isOpener_iff {c : Char} : Delimiter.isOpener c = true ↔ c = '(' ∨ c = '{' ∨ c = '[' := by
  unfold Delimiter.isOpener Delimiter.closer?
  split_ifs with h₁ h₂ h₃ <;> simp [*]

theorem isOpener_ne {c : Char} (h : Delimiter.isOpener c = true) :
    isBlank c = false ∧ isKeyChar c = false ∧ isNameChar c = false := by
  rcases isOpener_iff.1 h with rfl | rfl | rfl <;> decide

theorem not_isOpener_of_isKeyChar {c : Char} (h : isKeyChar c = true) :
    Delimiter.isOpener c = false := by
  refine Bool.eq_false_iff.2 fun hopener => ?_
  rw [(isOpener_ne hopener).2.1] at h
  cases h

variable {u v : Text}

/-- Text without opening brackets that such a text starts with ends before its first bracket. -/
theorem Opens.split (hv : Opens v) {m x : Text} (hm : ∀ c ∈ m, Delimiter.isOpener c = false)
    (h : u ++ v = m ++ x) : ∃ y, u = m ++ y ∧ x = y ++ v := by
  obtain ⟨o, rest, rfl, ho⟩ := hv
  rcases List.append_eq_append_iff.1 h with ⟨a, rfl, ha⟩ | ⟨y, rfl, rfl⟩
  · cases a with
    | nil => exact ⟨[], by simp, ha.symm⟩
    | cons d a =>
      obtain ⟨rfl, _⟩ := List.cons.inj ha
      rw [hm o (by simp)] at ho
      cases ho
  · exact ⟨y, rfl, rfl⟩

theorem Opens.skipBlanks (hv : Opens v) (y : Text) :
    Text.skipBlanks (y ++ v) = Text.skipBlanks y ++ v := by
  obtain ⟨o, rest, rfl, ho⟩ := hv
  obtain ⟨bl, hbl, hsplit⟩ := skipBlanks_split y
  cases hy : Text.skipBlanks y with
  | nil =>
    rw [hsplit, hy, List.append_nil, skipBlanks_append hbl, skipBlanks_cons (isOpener_ne ho).1,
      List.nil_append]
  | cons d y' =>
    rw [hsplit, hy, List.append_assoc, skipBlanks_append hbl, List.cons_append,
      skipBlanks_cons (head_skipBlanks hy)]

/-- A reader of keys takes a text of some form, without opening brackets, and the blanks behind
it. -/
structure Reads (f : Text → Option (Text × Text)) (form : Text → Text → Prop) : Prop where
  eq_some : ∀ {t name rest}, f t = some (name, rest) ↔
    ∃ m x, form name m ∧ t = m ++ x ∧ rest = skipBlanks x
  ne_nil : ∀ {name m}, form name m → m ≠ []
  not_isOpener : ∀ {name m}, form name m → ∀ c ∈ m, Delimiter.isOpener c = false

section

variable {f : Text → Option (Text × Text)} {form : Text → Text → Prop} {name rest : Text}

/-- A key before a bracket is one whatever the bracket opens. -/
theorem Reads.swap (hf : Reads f form) (hv : Opens v) (h : f (u ++ v) = some (name, rest)) :
    ∃ p w, p ≠ [] ∧ u = p ++ w ∧ ∀ x, Opens x → f (u ++ x) = some (name, w ++ x) := by
  obtain ⟨m, y, hform, hsplit, rfl⟩ := hf.eq_some.1 h
  obtain ⟨w, rfl, rfl⟩ := hv.split (hf.not_isOpener hform) hsplit
  obtain ⟨bl, _, hw⟩ := skipBlanks_split w
  refine ⟨m ++ bl, skipBlanks w, by simp [hf.ne_nil hform], ?_, fun x hx => ?_⟩
  · rw [List.append_assoc, ← hw]
  · exact hf.eq_some.2 ⟨m, w ++ x, hform, List.append_assoc .., (hx.skipBlanks w).symm⟩

theorem Reads.swap_none (hf : Reads f form) (hv : Opens v) (h : f (u ++ v) = none) {x : Text}
    (hx : Opens x) : f (u ++ x) = none := by
  refine Option.eq_none_iff_forall_ne_some.2 fun r hr => ?_
  obtain ⟨_, _, _, _, hswap⟩ := hf.swap hx hr
  rw [hswap v hv] at h
  cases h

end

def BareForm (name m : Text) : Prop :=
  name ≠ [] ∧ (∀ c ∈ name, isKeyChar c = true) ∧ ∃ bl, AllBlank bl ∧ m = name ++ (bl ++ [':'])

def QuotedForm (name m : Text) : Prop :=
  ∃ q, (q = '\'' ∨ q = '"') ∧ ∃ back, BareForm name (name ++ back) ∧ m = q :: name ++ q :: back

theorem BareForm.not_isOpener {name m : Text} (h : BareForm name m) :
    ∀ c ∈ m, Delimiter.isOpener c = false := by
  obtain ⟨_, hname, bl, hbl, rfl⟩ := h
  intro c hc
  simp only [List.mem_append, List.mem_singleton] at hc
  rcases hc with hc | hc | rfl
  · exact not_isOpener_of_isKeyChar (hname c hc)
  · exact (isPassed_of_isBlank (hbl c hc)).1
  · decide

theorem reads_bare : Reads bare? BareForm where
  eq_some := by
    intro t name rest
    rw [bare?_eq_some]
    constructor
    · rintro ⟨hne, hname, bl, x, hbl, rfl, rfl⟩
      exact ⟨_, x, ⟨hne, hname, bl, hbl, rfl⟩, by simp, rfl⟩
    · rintro ⟨_, x, ⟨hne, hname, bl, hbl, rfl⟩, rfl, rfl⟩
      exact ⟨hne, hname, bl, x, hbl, by simp, rfl⟩
  ne_nil := by
    rintro name m ⟨hne, _, bl, _, rfl⟩
    simp [hne]
  not_isOpener := BareForm.not_isOpener

theorem reads_quoted : Reads quoted? QuotedForm where
  eq_some := by
    intro t name rest
    rw [quoted?_eq_some]
    constructor
    · rintro ⟨q, hq, hne, hname, bl, x, hbl, rfl, rfl⟩
      exact ⟨_, x, ⟨q, hq, bl ++ [':'], ⟨hne, hname, bl, hbl, rfl⟩, rfl⟩, by simp, rfl⟩
    · rintro ⟨_, x, ⟨q, hq, _, ⟨hne, hname, bl, hbl, hback⟩, rfl⟩, rfl, rfl⟩
      obtain rfl := List.append_cancel_left hback
      exact ⟨q, hq, hne, hname, bl, x, hbl, by simp, rfl⟩
  ne_nil := by
    rintro name m ⟨q, _, back, _, rfl⟩
    simp
  not_isOpener := by
    rintro name m ⟨q, hq, back, hback, rfl⟩ c hc
    have hquote : Delimiter.isOpener q = false := by rcases hq with rfl | rfl <;> decide
    simp only [List.cons_append, List.mem_cons, List.mem_append] at hc
    rcases hc with rfl | hc | rfl | hc
    · exact hquote
    · exact hback.not_isOpener c (by simp [hc])
    · exact hquote
    · exact hback.not_isOpener c (by simp [hc])

/-- What the scan does at the first character of `c :: u`, with a bracket behind `u`. Either it
stays before the bracket, and does the same whatever that opens, or it does not come to it. -/
inductive Front (c : Char) (u v : Text) : Prop
  | key {name p w : Text} (split : u = p ++ w)
      (h : ∀ x, Opens x → step c (u ++ x) = .key name (w ++ x))
  | skip {p w : Text} (split : u = p ++ w)
      (h : ∀ x, Opens x → step c (u ++ x) = .skip (w ++ x))
  | beyond {after : Text} (h : step c (u ++ v) = .skip after) (short : after.length < v.length)
  | unclosed (h : step c (u ++ v) = .unclosed)

/-- Passing over a block or a literal, which ends before the bracket or not. -/
theorem Front.of_end {f : Text → Option Nat} {c : Char} {n : Nat} (hv : Opens v)
    (hswap : ∀ {u v : Text} {n : Nat}, f (u ++ v) = some n → n < u.length →
      ∀ w, f (u ++ w) = some n)
    (hstep : ∀ x n, Opens x → f (c :: (u ++ x)) = some n →
      step c (u ++ x) = .skip ((c :: (u ++ x)).drop (n + 1)))
    (h : f (c :: (u ++ v)) = some n) : Front c u v := by
  by_cases hn : n ≤ u.length
  · refine .skip (List.take_append_drop n u).symm fun x hx => ?_
    rw [hstep x n hx (hswap (u := c :: u) h (Nat.lt_succ_of_le hn) x), List.drop_succ_cons,
      List.drop_append_of_le_length hn]
  · refine .beyond (hstep v n hv h) ?_
    obtain ⟨o, rest, rfl, _⟩ := hv
    simp only [List.drop_succ_cons, List.length_drop, List.length_append, List.length_cons]
    omega

theorem front (hv : Opens v) (c : Char) (u : Text) : Front c u v := by
  by_cases hopener : Delimiter.isOpener c = true
  · cases hend : Delimiter.blockEnd? (c :: (u ++ v)) with
    | none => exact .unclosed (by simp only [step, hopener, if_true, hend])
    | some n =>
      refine .of_end hv Delimiter.blockEnd?_swap (fun x n _ h => ?_) hend
      simp only [step, hopener, if_true, h]
  have hopener : Delimiter.isOpener c = false := Bool.eq_false_iff.2 hopener
  by_cases hquote : isQuote c = true
  · cases hkey : quoted? (c :: (u ++ v)) with
    | some r =>
      obtain ⟨name, rest⟩ := r
      obtain ⟨p, w, hp, hsplit, hswap⟩ := reads_quoted.swap (u := c :: u) hv hkey
      obtain ⟨d, p, rfl⟩ := List.exists_cons_of_ne_nil hp
      refine @Front.key c u v name p w (List.cons.inj hsplit).2 fun x hx => ?_
      have hkey := hswap x hx
      rw [List.cons_append] at hkey
      simp only [step, hopener, hquote, hkey, Bool.false_eq_true, if_false, if_true]
    | none =>
      have hnone (x : Text) (hx : Opens x) : quoted? (c :: (u ++ x)) = none :=
        reads_quoted.swap_none (u := c :: u) hv hkey hx
      cases hend : Delimiter.literalEnd? (c :: (u ++ v)) with
      | none =>
        refine .unclosed ?_
        simp only [step, hopener, hquote, hkey, hend, Bool.false_eq_true, if_false, if_true]
      | some n =>
        refine .of_end hv Delimiter.literalEnd?_swap (fun x n hx h => ?_) hend
        simp only [step, hopener, hquote, hnone x hx, h, Bool.false_eq_true, if_false, if_true]
  have hquote : isQuote c = false := Bool.eq_false_iff.2 hquote
  by_cases hname : isNameStart c = true
  · cases hkey : bare? (c :: (u ++ v)) with
    | some r =>
      obtain ⟨name, rest⟩ := r
      obtain ⟨p, w, hp, hsplit, hswap⟩ := reads_bare.swap (u := c :: u) hv hkey
      obtain ⟨d, p, rfl⟩ := List.exists_cons_of_ne_nil hp
      refine @Front.key c u v name p w (List.cons.inj hsplit).2 fun x hx => ?_
      have hkey := hswap x hx
      rw [List.cons_append] at hkey
      simp only [step, hopener, hquote, hname, hkey, Bool.false_eq_true, if_false, if_true]
    | none =>
      refine .skip (List.takeWhile_append_dropWhile (p := isNameChar)).symm fun x hx => ?_
      have hnone := reads_bare.swap_none (u := c :: u) hv hkey hx
      rw [List.cons_append] at hnone
      have hdrop : (u ++ x).dropWhile isNameChar = u.dropWhile isNameChar ++ x := by
        obtain ⟨o, rest, rfl, ho⟩ := hx
        rw [List.dropWhile_append]
        split
        · next hnil =>
          rw [List.isEmpty_iff.1 hnil, List.nil_append, List.dropWhile_cons_of_neg]
          simp [(isOpener_ne ho).2.2]
        · rfl
      simp only [step, hopener, hquote, hname, hnone, hdrop, Bool.false_eq_true, if_false, if_true]
  · have hname : isNameStart c = false := Bool.eq_false_iff.2 hname
    refine .skip (List.nil_append u).symm fun x _ => ?_
    simp only [step, hopener, hquote, hname, Bool.false_eq_true, if_false]

/-- The scan looks at its start and then where its first step leads. -/
theorem stopsFrom_step {c : Char} {p x : Text} (pos : Nat)
    (h : step c (p ++ x) = .skip x ∨ ∃ name, step c (p ++ x) = .key name x) :
    stopsFrom pos (c :: p ++ x) = pos :: stopsFrom (pos + (c :: p).length) x := by
  have hlen : pos + ((p ++ x).length + 1 - x.length) = pos + (c :: p).length := by
    simp only [List.length_append, List.length_cons]
    omega
  rw [List.cons_append, stopsFrom]
  rcases h with h | ⟨name, h⟩ <;>
  · rw [h]
    simp only
    rw [if_pos (by simp), hlen]

theorem le_of_mem_stopsFrom {pos n : Nat} {t : Text} (h : n ∈ stopsFrom pos t) : pos ≤ n := by
  fun_induction stopsFrom pos t with
  | case1 => cases h
  | case2 pos c rest hstep => exact (List.mem_singleton.1 h).ge
  | case3 pos c rest after hstep hle ih =>
    rcases List.mem_cons.1 h with rfl | h
    · exact Nat.le_refl _
    · exact Nat.le_trans (Nat.le_add_right ..) (ih h)
  | case4 pos c rest after hstep hle => exact (List.mem_singleton.1 h).ge
  | case5 pos c rest after name hstep hle ih =>
    rcases List.mem_cons.1 h with rfl | h
    · exact Nat.le_refl _
    · exact Nat.le_trans (Nat.le_add_right ..) (ih h)
  | case6 pos c rest after name hstep hle => exact (List.mem_singleton.1 h).ge

/-- What comes before a position that the scan looks at, and at which a bracket stands, is the same
whatever the bracket opens. -/
theorem scanFrom_front (hv : Opens v) (pos : Nat) (h : pos + u.length ∈ stopsFrom pos (u ++ v)) :
    ∃ before : List Key,
      (∀ key ∈ before, key.start < key.valueStart ∧ key.valueStart ≤ pos + u.length) ∧
      ∀ x, Opens x → scanFrom pos (u ++ x) = before ++ scanFrom (pos + u.length) x := by
  induction hn : u.length using Nat.strong_induction_on generalizing u pos with
  | _ n ih =>
    subst hn
    cases u with
    | nil => exact ⟨[], by simp, fun x _ => rfl⟩
    | cons c u =>
      -- where the first step leads, if it stays before the bracket
      have hrest {p w : Text} (hsplit : u = p ++ w)
          (hstep : step c (u ++ v) = .skip (w ++ v) ∨ ∃ name, step c (u ++ v) = .key name (w ++ v)) :
          pos + (c :: p).length + w.length ∈ stopsFrom (pos + (c :: p).length) (w ++ v) := by
        subst hsplit
        rw [List.append_assoc] at hstep
        rw [List.cons_append, List.append_assoc, ← List.cons_append, stopsFrom_step pos hstep] at h
        rcases List.mem_cons.1 h with h | h
        · simp only [List.length_cons] at h
          omega
        · simpa only [List.length_cons, List.length_append, Nat.add_assoc, Nat.add_comm 1,
            Nat.add_left_comm] using h
      have hlen {p w : Text} (hsplit : u = p ++ w) :
          pos + (c :: p).length + w.length = pos + (c :: u).length := by
        rw [hsplit]
        simp only [List.length_cons, List.length_append]
        omega
      have hless {p w : Text} (hsplit : u = p ++ w) : w.length < (c :: u).length := by
        rw [hsplit]
        simp only [List.length_cons, List.length_append]
        omega
      cases front hv c u with
      | @key name p w hsplit hstep =>
        obtain ⟨before, hbefore, hscan⟩ :=
          ih _ (hless hsplit) _ (hrest hsplit (.inr ⟨name, hstep v hv⟩)) rfl
        rw [hlen hsplit] at hbefore hscan
        refine ⟨⟨name, pos, pos + (c :: p).length⟩ :: before, ?_, fun x hx => ?_⟩
        · refine List.forall_mem_cons.2 ⟨⟨?_, ?_⟩, hbefore⟩
          · simp
          · rw [← hlen hsplit]
            exact Nat.le_add_right ..
        · have hstep := hstep x hx
          subst hsplit
          rw [List.append_assoc] at hstep
          rw [List.cons_append, List.append_assoc, ← List.cons_append, scanFrom_key pos hstep,
            hscan x hx, List.cons_append]
      | @skip p w hsplit hstep =>
        obtain ⟨before, hbefore, hscan⟩ :=
          ih _ (hless hsplit) _ (hrest hsplit (.inl (hstep v hv))) rfl
        rw [hlen hsplit] at hbefore hscan
        refine ⟨before, hbefore, fun x hx => ?_⟩
        have hstep := hstep x hx
        subst hsplit
        rw [List.append_assoc] at hstep
        rw [List.cons_append, List.append_assoc, ← List.cons_append, scanFrom_skip pos hstep,
          hscan x hx]
      | @beyond after hstep hshort =>
        rw [List.cons_append, stopsFrom, hstep] at h
        simp only at h
        split at h
        · rcases List.mem_cons.1 h with h | h
          · simp only [List.length_cons] at h
            omega
          · have hle := le_of_mem_stopsFrom h
            simp only [List.length_cons, List.length_append] at hle
            omega
        · simp at h
      | unclosed hstep =>
        rw [List.cons_append, stopsFrom, hstep] at h
        simp at h

theorem scan_of_ne {t : Text} (h : t.head? ≠ some '{') : scan t = scanFrom 0 t := by
  unfold scan
  split
  · exact absurd rfl h
  · rfl

theorem stops_of_ne {t : Text} (h : t.head? ≠ some '{') : stops t = stopsFrom 0 t := by
  unfold stops
  split
  · exact absurd rfl h
  · rfl

/-- The same for an options text, which may start with its opening brace. -/
theorem scan_front {pre : Text} (hv : Opens v) (h : pre.length ∈ stops (pre ++ v)) :
    ∃ before : List Key,
      (∀ key ∈ before, key.start < key.valueStart ∧ key.valueStart ≤ pre.length) ∧
      ∀ x, Opens x → x.head? = v.head? → scan (pre ++ x) = before ++ scanFrom pre.length x := by
  cases pre with
  | nil =>
    have hbrace : v.head? ≠ some '{' := by
      intro hbrace
      obtain ⟨rest, rfl⟩ := List.head?_eq_some_iff.1 hbrace
      exact absurd (le_of_mem_stopsFrom h) (by simp)
    exact ⟨[], by simp, fun x _ hhead => scan_of_ne (hhead ▸ hbrace)⟩
  | cons c u =>
    by_cases hc : c = '{'
    · subst hc
      rw [List.length_cons, Nat.add_comm] at h ⊢
      obtain ⟨before, hbefore, hscan⟩ := scanFrom_front hv 1 h
      exact ⟨before, hbefore, fun x hx _ => hscan x hx⟩
    · have hne (x : Text) : (c :: u ++ x).head? ≠ some '{' := by simpa using hc
      rw [stops_of_ne (hne v), ← Nat.zero_add (c :: u).length] at h
      obtain ⟨before, hbefore, hscan⟩ := scanFrom_front hv 0 h
      rw [Nat.zero_add] at hbefore hscan
      exact ⟨before, hbefore, fun x hx _ => (scan_of_ne (hne x)).trans (hscan x hx)⟩

/-- Where a key stands when the block before it, at `border`, holds `new` characters and no longer
`old` ones. -/
def moved (border old new : Nat) (key : Key) : Key :=
  if key.start < border then key
  else { key with start := key.start - old + new, valueStart := key.valueStart - old + new }

theorem moved_shift (border old new : Nat) (key : Key) :
    moved border old new (shift (border + (old + 2)) key) = shift (border + (new + 2)) key := by
  have hnot : ¬ key.start + (border + (old + 2)) < border := by omega
  have hmove (n : Nat) : n + (border + (old + 2)) - old + new = n + (border + (new + 2)) := by omega
  simp only [moved, shift, if_neg hnot, hmove]

/-- A block that the scan comes to is passed over whole, and behind it the scan goes on as on a text
of its own. -/
theorem scanFrom_payload {o c : Char} {inside : Text} (h : Delimiter.blockEnd?
      (o :: (inside ++ [c])) = some (inside.length + 1)) (pos : Nat) (post : Text) :
    scanFrom pos (o :: (inside ++ c :: post)) =
      (scanFrom 0 post).map (shift (pos + (inside.length + 2))) := by
  have hblock : Delimiter.blockEnd? (o :: (inside ++ [c])) = some (inside ++ [c]).length := by
    rw [h, List.length_append, List.length_singleton]
  have hscan := scanFrom_block hblock pos post
  rw [List.cons_append, List.append_assoc, List.singleton_append] at hscan
  rw [hscan, ← scanFrom_shift, Nat.zero_add]
  simp only [List.length_cons, List.length_append, List.length_nil]

/-- What a block holds does not matter to the keys outside it. If the scan comes to the block, the
same keys are found with any other inside that the block is closed around: those before the block
where they were, those behind it moved by the difference in length, and none inside. -/
theorem scan_payload {pre post inside inside' : Text} {o c : Char}
    (hpair : Delimiter.closer? o = some c)
    (hclosed : Delimiter.matching? (pre ++ o :: (inside ++ c :: post)) pre.length =
      some (pre.length + (inside.length + 1)))
    (hreached : pre.length ∈ stops (pre ++ o :: (inside ++ c :: post)))
    (hclosed' : Delimiter.blockEnd? (o :: (inside' ++ [c])) = some (inside'.length + 1)) :
    scan (pre ++ o :: (inside' ++ c :: post)) =
        (scan (pre ++ o :: (inside ++ c :: post))).map
          (moved pre.length inside.length inside'.length) ∧
      ∀ key ∈ scan (pre ++ o :: (inside' ++ c :: post)),
        key.valueStart ≤ pre.length ∨ pre.length + (inside'.length + 2) ≤ key.start := by
  have hopens (x : Text) : Opens (o :: x) := ⟨o, x, rfl, by rw [Delimiter.isOpener, hpair]; rfl⟩
  have hend : Delimiter.blockEnd? (o :: (inside ++ [c])) = some (inside.length + 1) := by
    rw [Delimiter.matching?, if_neg (by omega), Int.toNat_natCast, List.drop_left] at hclosed
    obtain ⟨n, hn, heq⟩ := Option.map_eq_some_iff.1 hclosed
    obtain rfl : n = inside.length + 1 := by omega
    rw [← List.singleton_append (x := c), ← List.append_assoc, ← List.cons_append] at hn
    simpa using Delimiter.blockEnd?_swap hn (by simp) []
  obtain ⟨before, hbefore, hscan⟩ := scan_front (hopens _) hreached
  have hbeforeMoved : before.map (moved pre.length inside.length inside'.length) = before := by
    refine List.map_congr_left (g := id) (fun key hkey => if_pos ?_) |>.trans (List.map_id before)
    obtain ⟨hstart, hle⟩ := hbefore key hkey
    omega
  have hscan' := hscan _ (hopens (inside' ++ c :: post)) rfl
  rw [scanFrom_payload hclosed'] at hscan'
  constructor
  · rw [hscan', hscan _ (hopens _) rfl, scanFrom_payload hend, List.map_append, hbeforeMoved,
      List.map_map]
    congr 1
    exact List.map_congr_left fun key _ => (moved_shift ..).symm
  · intro key hkey
    rw [hscan', List.mem_append] at hkey
    rcases hkey with hkey | hkey
    · exact .inl (hbefore key hkey).2
    · obtain ⟨key, _, rfl⟩ := List.mem_map.1 hkey
      exact .inr (Nat.le_add_left ..)

/-- The argument of a call, an object, gives way to text with a key, a string and a lone brace. -/
theorem scan_payload_call :
    let pre := "\x7b a: f".toList
    let post := ", 'body': x \x7d".toList
    let inside := "\x7b data: [1] \x7d".toList
    let inside' := "'(', \"data\": \x7b), method: '".toList
    Delimiter.closer? '(' = some ')' ∧
      Delimiter.matching? (pre ++ '(' :: (inside ++ ')' :: post)) pre.length = some 20 ∧
      pre.length ∈ stops (pre ++ '(' :: (inside ++ ')' :: post)) ∧
      Delimiter.blockEnd? ('(' :: (inside' ++ [')'])) = some 27 ∧
      scan (pre ++ '(' :: (inside' ++ ')' :: post)) =
        [⟨"a".toList, 2, 5⟩, ⟨"body".toList, 36, 44⟩] := by
  intro pre post inside inside'
  have hmatching : Delimiter.matching? (pre ++ '(' :: (inside ++ ')' :: post)) pre.length =
      some 20 := by decide +kernel
  have hstop : pre.length ∈ stops (pre ++ '(' :: (inside ++ ')' :: post)) := by decide +kernel
  have hend : Delimiter.blockEnd? ('(' :: (inside' ++ [')'])) = some 27 := by decide +kernel
  have hscan : scan (pre ++ '(' :: (inside ++ ')' :: post)) =
      [⟨"a".toList, 2, 5⟩, ⟨"body".toList, 23, 31⟩] := by decide +kernel
  refine ⟨rfl, hmatching, hstop, hend, ?_⟩
  exact (scan_payload (o := '(') (c := ')') rfl hmatching hstop hend).1.trans (hscan ▸ rfl)

end Key
end EndpointManifest
