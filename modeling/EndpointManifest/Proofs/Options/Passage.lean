import EndpointManifest.Proofs.Delimiter.Escape
import EndpointManifest.Proofs.Delimiter.Shortest
import EndpointManifest.Proofs.Options.WholeKey

/-! What the key scan passes over. Each of its rounds passes over one piece of the text, a key, a
block, a literal, an identifier or a single character, and the next round begins where that piece ends. So
the scan comes to an end, and the pieces lie side by side from the place where it starts to the
place where it stops. -/

namespace EndpointManifest

open Text

namespace Key

inductive Kind where
  | key (name : Text)
  | block
  | literal
  | identifier
  | character
  deriving Repr, DecidableEq

/-- A round of the scan at position `pos`: what is passed over there, and where the next round
begins. There is none at the end of the text, nor where a block or a literal is never closed. -/
def round? (options : Text) (pos : Nat) : Option (Kind × Nat) :=
  match options.drop pos with
  | [] => none
  | c :: rest =>
    if Delimiter.isOpener c then
      (Delimiter.matching? options pos).map fun r => (.block, r + 1)
    else if isQuote c then
      match quoted? (c :: rest) with
      | some (name, after) => some (.key name, options.length - after.length)
      | none => (Delimiter.closingQuote? options pos).map fun r => (.literal, r + 1)
    else if isNameStart c then
      match bare? (c :: rest) with
      | some (name, after) => some (.key name, options.length - after.length)
      | none => some (.identifier, options.length - (rest.dropWhile isNameChar).length)
    else some (.character, pos + 1)

def Kind.toStep (kind : Kind) (after : Text) : Step :=
  match kind with
  | .key name => .key name after
  | _ => .skip after

structure Piece where
  kind : Kind
  start : Nat
  stop : Nat
  deriving Repr, DecidableEq

def Piece.key? : Piece → Option Key
  | ⟨.key name, start, stop⟩ => some ⟨name, start, stop⟩
  | _ => none

/-- The rounds from `pos` on pass over the pieces in turn, and there is none at `stop`. -/
inductive Passage (options : Text) : (pos : Nat) → List Piece → (stop : Nat) → Prop where
  | ended {pos : Nat} (h : round? options pos = none) : Passage options pos [] pos
  | round {pos next stop : Nat} {kind : Kind} {pieces : List Piece}
      (h : round? options pos = some (kind, next)) (rest : Passage options next pieces stop) :
      Passage options pos (⟨kind, pos, next⟩ :: pieces) stop

/-- Where the scan starts: behind the opening brace, if the text starts with one. -/
def origin (options : Text) : Nat := if options.head? = some '{' then 1 else 0

/-- At `pos` a block or a literal opens that is never closed. -/
def Unclosed (options : Text) (pos : Nat) : Prop :=
  ∃ c rest, options.drop pos = c :: rest ∧
    (Delimiter.isOpener c = true ∧ Delimiter.matching? options pos = none ∨
      isQuote c = true ∧ quoted? (c :: rest) = none ∧ Delimiter.closingQuote? options pos = none)

variable {options : Text} {pos next stop : Nat} {kind : Kind} {c : Char} {rest : Text}

/-- What is left of the text behind a round, told by its length. -/
theorem drop_of_suffix {after : Text} (h : after <:+ options.drop pos) :
    options.drop (options.length - after.length) = after :=
  (List.suffix_iff_eq_drop.1 (h.trans (List.drop_suffix pos options))).symm

theorem key_suffix {name after : Text} (h : step c rest = .key name after) : after <:+ rest := by
  obtain ⟨head, bl, bl', -, -, hsplit, -⟩ := step_eq_key h
  cases head with
  | nil =>
    cases bl with
    | nil =>
      obtain ⟨-, rfl⟩ := List.cons.inj hsplit
      exact List.suffix_append bl' after
    | cons b bl =>
      obtain ⟨-, rfl⟩ := List.cons.inj hsplit
      exact ⟨bl ++ ':' :: bl', by simp⟩
  | cons d head =>
    obtain ⟨-, rfl⟩ := List.cons.inj hsplit
    exact ⟨head ++ (bl ++ ':' :: bl'), by simp⟩

/-- Where a round of the scan ends and what is read there, in each of the five ways to go on. -/
theorem round?_cases (h : round? options pos = some (kind, next)) :
    ∃ c rest, options.drop pos = c :: rest ∧
      ((kind = .block ∧ Delimiter.isOpener c = true ∧
          ∃ r, Delimiter.matching? options pos = some r ∧ next = r + 1) ∨
        (∃ name after, kind = .key name ∧ step c rest = .key name after ∧
          next = options.length - after.length) ∨
        (kind = .literal ∧ isQuote c = true ∧ quoted? (c :: rest) = none ∧
          ∃ r, Delimiter.closingQuote? options pos = some r ∧ next = r + 1) ∨
        (kind = .identifier ∧ isNameStart c = true ∧ bare? (c :: rest) = none ∧
          next = options.length - (rest.dropWhile isNameChar).length) ∨
        (kind = .character ∧ IsPassed c ∧ next = pos + 1)) := by
  unfold round? at h
  split at h
  · cases h
  · next c rest hdrop =>
    refine ⟨c, rest, hdrop, ?_⟩
    split_ifs at h with hopener hquote hstart
    · obtain ⟨r, hr, heq⟩ := Option.map_eq_some_iff.1 h
      obtain ⟨rfl, rfl⟩ := Prod.mk.inj heq
      exact .inl ⟨rfl, hopener, r, hr, rfl⟩
    · split at h
      · next name after hkey =>
        obtain ⟨rfl, rfl⟩ := Prod.mk.inj (Option.some.inj h)
        refine .inr (.inl ⟨name, after, rfl, ?_, rfl⟩)
        simp [step, hopener, hquote, hkey]
      · next hkey =>
        obtain ⟨r, hr, heq⟩ := Option.map_eq_some_iff.1 h
        obtain ⟨rfl, rfl⟩ := Prod.mk.inj heq
        exact .inr (.inr (.inl ⟨rfl, hquote, hkey, r, hr, rfl⟩))
    · split at h
      · next name after hkey =>
        obtain ⟨rfl, rfl⟩ := Prod.mk.inj (Option.some.inj h)
        refine .inr (.inl ⟨name, after, rfl, ?_, rfl⟩)
        simp [step, hopener, hquote, hstart, hkey]
      · next hkey =>
        obtain ⟨rfl, rfl⟩ := Prod.mk.inj (Option.some.inj h)
        exact .inr (.inr (.inr (.inl ⟨rfl, hstart, hkey, rfl⟩)))
    · obtain ⟨rfl, rfl⟩ := Prod.mk.inj (Option.some.inj h)
      refine .inr (.inr (.inr (.inr ⟨rfl, ⟨?_, ?_, ?_⟩, rfl⟩)))
      · simpa using hopener
      · simpa using hquote
      · simpa using hstart

theorem round?_eq_none : round? options pos = none ↔
    options.length ≤ pos ∨ Unclosed options pos := by
  rw [← List.drop_eq_nil_iff]
  unfold round?
  split
  · next hdrop => simp [hdrop]
  · next c rest hdrop =>
    have hunclosed : Unclosed options pos ↔
        Delimiter.isOpener c = true ∧ Delimiter.matching? options pos = none ∨
          isQuote c = true ∧ quoted? (c :: rest) = none ∧
            Delimiter.closingQuote? options pos = none := by
      constructor
      · rintro ⟨c', rest', hdrop', h⟩
        obtain ⟨rfl, rfl⟩ := List.cons.inj (hdrop.symm.trans hdrop')
        exact h
      · exact fun h => ⟨c, rest, hdrop, h⟩
    rw [hunclosed, hdrop]
    split_ifs with hopener hquote hstart
    · have hquote : isQuote c = false := by
        rcases isOpener_iff.1 hopener with rfl | rfl | rfl <;> decide
      simp [hopener, hquote]
    · cases hkey : quoted? (c :: rest) <;> simp [hopener, hquote]
    · cases hkey : bare? (c :: rest) <;> simp [hopener, hquote]
    · simp [hopener, hquote]

/-- The scan takes at each position the round that stands there. -/
theorem step_eq_round (hdrop : options.drop pos = c :: rest) :
    step c rest = (round? options pos).elim .unclosed fun (kind, next) =>
      kind.toStep (options.drop next) := by
  have hkey {name after : Text} (h : step c rest = .key name after) :
      options.drop (options.length - after.length) = after := by
    have hsuffix : after <:+ options.drop pos := by
      rw [hdrop]
      exact (key_suffix h).trans (List.suffix_cons c rest)
    exact drop_of_suffix hsuffix
  have hbehind (n : Nat) : options.drop (pos + n + 1) = (c :: rest).drop (n + 1) := by
    rw [← hdrop, List.drop_drop, Nat.add_assoc]
  rw [step.eq_def, round?, hdrop]
  dsimp only
  split_ifs with hopener hquote hstart
  · rw [Delimiter.matching?_of_drop hdrop]
    cases Delimiter.blockEnd? (c :: rest) with
    | none => rfl
    | some n => simp [Kind.toStep, hbehind]
  · cases hquoted : quoted? (c :: rest) with
    | some key =>
      obtain ⟨name, after⟩ := key
      have hafter := hkey (show step c rest = .key name after by
        simp [step, hopener, hquote, hquoted])
      simp [Kind.toStep, hafter]
    | none =>
      rw [Delimiter.closingQuote?_of_drop hdrop]
      cases Delimiter.literalEnd? (c :: rest) with
      | none => rfl
      | some n => simp [Kind.toStep, hbehind]
  · cases hbare : bare? (c :: rest) with
    | some key =>
      obtain ⟨name, after⟩ := key
      have hafter := hkey (show step c rest = .key name after by
        simp [step, hopener, hquote, hstart, hbare])
      simp [Kind.toStep, hafter]
    | none =>
      have hsuffix : rest.dropWhile isNameChar <:+ options.drop pos := by
        rw [hdrop]
        exact (List.dropWhile_suffix _).trans (List.suffix_cons c rest)
      simp [Kind.toStep, drop_of_suffix hsuffix]
  · simpa [Kind.toStep] using (hbehind 0).symm

/-- Every round moves on and stays within the text. -/
theorem round?_advances (h : round? options pos = some (kind, next)) :
    pos < next ∧ next ≤ options.length := by
  obtain ⟨c, rest, hdrop, hway⟩ := round?_cases h
  have hlength := congrArg List.length hdrop
  rw [List.length_drop, List.length_cons] at hlength
  rcases hway with ⟨-, -, r, hr, rfl⟩ | ⟨name, after, -, hstep, rfl⟩ | ⟨-, -, -, r, hr, rfl⟩ |
    ⟨-, -, -, rfl⟩ | ⟨-, -, rfl⟩
  · obtain ⟨_, _, inside, -, -, hcut⟩ := Delimiter.matching?_eq_some.1 hr
    have hbounds := hcut.bounds
    omega
  · have := (key_suffix hstep).length_le
    omega
  · obtain ⟨_, inside, -, hcut, -⟩ := Delimiter.closingQuote?_eq_some.1 hr
    have hbounds := hcut.bounds
    omega
  · have := (List.dropWhile_suffix (l := rest) isNameChar).length_le
    omega
  · omega

/-- The scan takes one round and goes on where it ends. -/
theorem scanFrom_round (h : round? options pos = some (kind, next)) :
    scanFrom pos (options.drop pos) =
      (Piece.key? ⟨kind, pos, next⟩).toList ++ scanFrom next (options.drop next) := by
  obtain ⟨hmoves, hwithin⟩ := round?_advances h
  obtain ⟨c, rest, hdrop, -⟩ := round?_cases h
  have hlength := congrArg List.length hdrop
  rw [List.length_drop, List.length_cons] at hlength
  have hstep := step_eq_round hdrop
  rw [h, Option.elim_some] at hstep
  have hshorter : (options.drop next).length ≤ rest.length := by
    rw [List.length_drop]
    omega
  have hnext : pos + (rest.length + 1 - (options.drop next).length) = next := by
    rw [List.length_drop]
    omega
  rw [hdrop, scanFrom.eq_2, hstep]
  cases kind <;> simp only [Kind.toStep, if_pos hshorter, hnext] <;> rfl

theorem scanFrom_ended (h : round? options pos = none) :
    scanFrom pos (options.drop pos) = [] := by
  cases hdrop : options.drop pos with
  | nil => rw [scanFrom.eq_1]
  | cons c rest =>
    have hstep := step_eq_round hdrop
    rw [h, Option.elim_none] at hstep
    rw [scanFrom.eq_2, hstep]

theorem scan_eq (options : Text) :
    scan options = scanFrom (origin options) (options.drop (origin options)) := by
  unfold scan origin
  split
  · rfl
  · next hbrace =>
    rw [if_neg]
    · rfl
    · rintro hhead
      obtain ⟨rest, rfl⟩ := List.head?_eq_some_iff.1 hhead
      exact hbrace rest rfl

theorem origin_le (options : Text) : origin options ≤ options.length := by
  unfold origin
  split
  · next hhead =>
    obtain ⟨rest, rfl⟩ := List.head?_eq_some_iff.1 hhead
    simp
  · exact Nat.zero_le _

theorem Passage.scanFrom_eq {pieces : List Piece} (h : Passage options pos pieces stop) :
    scanFrom pos (options.drop pos) = pieces.filterMap Piece.key? := by
  induction h with
  | ended h => rw [scanFrom_ended h, List.filterMap_nil]
  | @round pos next stop kind pieces h _ ih =>
    rw [scanFrom_round h, ih]
    cases hkey : Piece.key? ⟨kind, pos, next⟩ <;> simp [hkey]

/-- Wherever the scan stands, it comes to an end. -/
theorem exists_passage (options : Text) (pos : Nat) :
    ∃ pieces stop, Passage options pos pieces stop := by
  induction hn : options.length - pos using Nat.strong_induction_on generalizing pos with
  | _ n ih =>
    cases hround : round? options pos with
    | none => exact ⟨[], pos, .ended hround⟩
    | some round =>
      obtain ⟨kind, next⟩ := round
      obtain ⟨hmoves, hwithin⟩ := round?_advances hround
      obtain ⟨pieces, stop, hrest⟩ := ih (options.length - next) (by omega) next rfl
      exact ⟨_, stop, .round hround hrest⟩

namespace Passage

variable {pieces pieces' : List Piece} {stop' : Nat}

theorem unique (h : Passage options pos pieces stop) (h' : Passage options pos pieces' stop') :
    pieces = pieces' ∧ stop = stop' := by
  induction h generalizing pieces' with
  | ended hnone =>
    cases h' with
    | ended => exact ⟨rfl, rfl⟩
    | round hsome => cases hnone.symm.trans hsome
  | round hsome _ ih =>
    cases h' with
    | ended hnone => cases hnone.symm.trans hsome
    | round hsome' hrest =>
      cases hsome.symm.trans hsome'
      obtain ⟨rfl, rfl⟩ := ih hrest
      exact ⟨rfl, rfl⟩

theorem round?_stop (h : Passage options pos pieces stop) : round? options stop = none := by
  induction h with
  | ended h => exact h
  | round _ _ ih => exact ih

theorem stop_le (h : Passage options pos pieces stop) (hpos : pos ≤ options.length) :
    stop ≤ options.length := by
  induction h with
  | ended => exact hpos
  | round h _ ih => exact ih (round?_advances h).2

theorem length_le (h : Passage options pos pieces stop) : pos + pieces.length ≤ stop := by
  induction h with
  | ended => exact Nat.le_refl _
  | round h _ ih =>
    have := (round?_advances h).1
    rw [List.length_cons]
    omega

theorem within (h : Passage options pos pieces stop) :
    ∀ p ∈ pieces, pos ≤ p.start ∧ p.start < p.stop ∧ p.stop ≤ stop := by
  induction h with
  | ended => simp
  | round h hrest ih =>
    have hmoves := (round?_advances h).1
    have hbelow := hrest.length_le
    rw [List.forall_mem_cons]
    refine ⟨⟨Nat.le_refl _, hmoves, Nat.le_of_add_right_le hbelow⟩, fun p hp => ?_⟩
    have := ih p hp
    omega

theorem pairwise (h : Passage options pos pieces stop) :
    pieces.Pairwise fun p p' => p.stop ≤ p'.start := by
  induction h with
  | ended => exact .nil
  | round _ hrest ih => exact List.pairwise_cons.2 ⟨fun p hp => (hrest.within p hp).1, ih⟩

/-- The pieces leave no position out and take none twice. -/
theorem existsUnique_piece (h : Passage options pos pieces stop) {i : Nat} (hpos : pos ≤ i)
    (hstop : i < stop) : ∃! p, p ∈ pieces ∧ p.start ≤ i ∧ i < p.stop := by
  induction h with
  | ended => omega
  | @round pos next stop kind pieces _ hrest ih =>
    by_cases hnext : i < next
    · refine ⟨⟨kind, pos, next⟩, ⟨List.mem_cons_self, hpos, hnext⟩, ?_⟩
      rintro p ⟨hp, hstart, -⟩
      rcases List.mem_cons.1 hp with rfl | hp
      · rfl
      · have := (hrest.within p hp).1
        omega
    · obtain ⟨p, ⟨hp, hwithin⟩, honly⟩ := ih (by omega) hstop
      refine ⟨p, ⟨List.mem_cons_of_mem _ hp, hwithin⟩, ?_⟩
      rintro p' ⟨hp', hwithin'⟩
      rcases List.mem_cons.1 hp' with rfl | hp'
      · exact absurd hwithin'.2 hnext
      · exact honly p' ⟨hp', hwithin'⟩

end Passage

theorem Piece.key?_eq_some {p : Piece} {key : Key} (h : p.key? = some key) :
    p.start = key.start ∧ p.stop = key.valueStart := by
  unfold Piece.key? at h
  split at h
  · obtain rfl := Option.some.inj h
    exact ⟨rfl, rfl⟩
  · cases h

/-- The scan of any text comes to an end in one way, after no more rounds than the text has
characters. Every round is the one that the scan takes, moves on and stays within the text. The keys
are those of its pieces, one behind the other, and none of them starts within another piece. Each
position from the start of the scan on is in exactly one piece, or behind the place of a block or a
literal that is never closed. -/
theorem scan_passage (options : Text) :
    (∀ pos c rest, options.drop pos = c :: rest →
      step c rest = (round? options pos).elim .unclosed fun (kind, next) =>
        kind.toStep (options.drop next)) ∧
    (∀ pos kind next, round? options pos = some (kind, next) →
      pos < next ∧ next ≤ options.length) ∧
    ∃ pieces stop,
      (∀ pieces' stop', Passage options (origin options) pieces' stop' ↔
        pieces' = pieces ∧ stop' = stop) ∧
      pieces.length ≤ options.length ∧
      scan options = pieces.filterMap Piece.key? ∧
      (∀ key ∈ scan options, origin options ≤ key.start ∧ key.start < key.valueStart ∧
        key.valueStart ≤ options.length) ∧
      (scan options).Pairwise (fun key key' => key.valueStart ≤ key'.start) ∧
      (∀ key ∈ scan options, ∀ p ∈ pieces, p.key? = none →
        key.start < p.start ∨ p.stop ≤ key.start) ∧
      (∀ i, origin options ≤ i → i < options.length →
        (i < stop ∧ ∃! p, p ∈ pieces ∧ p.start ≤ i ∧ i < p.stop) ∨
          (stop ≤ i ∧ Unclosed options stop)) := by
  refine ⟨fun pos c rest => step_eq_round, fun pos kind next => round?_advances, ?_⟩
  obtain ⟨pieces, stop, h⟩ := exists_passage options (origin options)
  have hstop : stop ≤ options.length := h.stop_le (origin_le options)
  have hscan : scan options = pieces.filterMap Piece.key? := by rw [scan_eq, h.scanFrom_eq]
  have hpiece {key : Key} (hkey : key ∈ scan options) :
      ∃ p ∈ pieces, p.key? = some key ∧ p.start = key.start ∧ p.stop = key.valueStart := by
    rw [hscan] at hkey
    obtain ⟨p, hp, hkey⟩ := List.mem_filterMap.1 hkey
    exact ⟨p, hp, hkey, Piece.key?_eq_some hkey⟩
  refine ⟨pieces, stop, fun pieces' stop' => ⟨fun h' => h'.unique h, ?_⟩, ?_, hscan,
    fun key hkey => ?_, ?_, fun key hkey p' hp' hnone => ?_, fun i horigin hlength => ?_⟩
  · rintro ⟨rfl, rfl⟩
    exact h
  · have := h.length_le
    omega
  · obtain ⟨p, hp, -, hstart, hvalue⟩ := hpiece hkey
    have := h.within p hp
    omega
  · rw [hscan, List.pairwise_filterMap]
    refine h.pairwise.imp fun hle key hkey key' hkey' => ?_
    rwa [← (Piece.key?_eq_some hkey).2, ← (Piece.key?_eq_some hkey').1]
  · obtain ⟨p, hp, hkey, hstart, -⟩ := hpiece hkey
    obtain ⟨hle, hlt, hend⟩ := h.within p hp
    by_contra hinside
    -- the key and the other piece would share the position where the key starts
    have heq : p = p' := (h.existsUnique_piece hle (by omega)).unique
      ⟨hp, Nat.le_refl _, hlt⟩ ⟨hp', by omega, by omega⟩
    rw [heq, hnone] at hkey
    cases hkey
  · by_cases hi : i < stop
    · exact .inl ⟨hi, h.existsUnique_piece horigin hi⟩
    · refine .inr ⟨by omega, ?_⟩
      exact (round?_eq_none.1 h.round?_stop).resolve_left (by omega)

/-- The value of the second key is never closed, and the scan stops at it. -/
theorem scan_passage_unclosed :
    let options := "a: (1), 'b': [2".toList
    let pieces : List Piece := [⟨.key ['a'], 0, 3⟩, ⟨.block, 3, 6⟩, ⟨.character, 6, 7⟩,
      ⟨.character, 7, 8⟩, ⟨.key ['b'], 8, 13⟩]
    Passage options (origin options) pieces 13 ∧ scan options = pieces.filterMap Piece.key? ∧
      (∃! p, p ∈ pieces ∧ p.start ≤ 4 ∧ 4 < p.stop) ∧ Unclosed options 13 := by
  intro options pieces
  have hpassage : Passage options (origin options) pieces 13 :=
    .round (by decide) (.round (by decide) (.round (by decide) (.round (by decide)
      (.round (by decide) (.ended (by decide))))))
  obtain ⟨-, -, pieces', stop, hpass, -, hscan, -, -, -, hplace⟩ := scan_passage options
  obtain ⟨hpieces, hstop⟩ := (hpass pieces 13).1 hpassage
  rw [← hpieces] at hscan hplace
  rw [← hstop] at hplace
  refine ⟨hpassage, hscan, ?_, ?_⟩
  · exact ((hplace 4 (by decide) (by decide)).resolve_right (by omega)).2
  · exact ((hplace 14 (by decide) (by decide)).resolve_left (by omega)).2

end Key
end EndpointManifest
