import EndpointManifest.Options.Value
import EndpointManifest.Proofs.Options.Payload

/-! Where the keys of a scan stand in their words. The scan looks for a name at the characters that
start one, and passes over the others one by one: a bare key is therefore the end of its word, from
the first such character on, and the whole of a word that starts with one. -/

namespace EndpointManifest

open Text

namespace Key

def EndsApart (u : Text) : Prop := ∀ c, u.getLast? = some c → isKeyChar c = false

structure IsWord (options front word rest : Text) : Prop where
  split : options = front ++ (word ++ rest)
  nonempty : word ≠ []
  chars : ∀ c ∈ word, isKeyChar c = true
  before : EndsApart front
  after : ∀ c, rest.head? = some c → isKeyChar c = false

def ColonFollows (t : Text) : Prop := (skipBlanks t).head? = some ':'

def InQuotes (options : Text) (key : Key) : Prop :=
  ∃ front q rest, (q = '\'' ∨ q = '"') ∧ options = front ++ q :: (key.name ++ q :: rest) ∧
    key.start = front.length

/-- A key in quotes, or a bare one that is a word of its own. -/
def IsWhole (options : Text) (key : Key) : Prop :=
  key.InQuotes options ∨ ∃ front rest, IsWord options front key.name rest ∧ key.start = front.length

/-- Where a word goes on behind the text, none of its characters so far starts a name. -/
def Nameless (u : Text) : Prop :=
  ∃ front lead, u = front ++ lead ∧ EndsApart front ∧
    ∀ c ∈ lead, isKeyChar c = true ∧ isNameStart c = false

/-- What the scan keeps true where it stands, between the text it has passed and the text ahead: if
a key ends the word there, no earlier key could have begun in it. -/
def Fresh (u t : Text) : Prop := ColonFollows (t.dropWhile isKeyChar) → Nameless u

theorem EndsApart.concat {c : Char} (h : isKeyChar c = false) (u : Text) : EndsApart (u ++ [c]) := by
  intro d hd
  rw [List.getLast?_concat] at hd
  rwa [← Option.some.inj hd]

theorem EndsApart.blanks {u bl : Text} (hu : EndsApart u) (hbl : AllBlank bl) :
    EndsApart (u ++ bl) := by
  rcases List.eq_nil_or_concat bl with rfl | ⟨bl, b, rfl⟩
  · rwa [List.append_nil]
  · rw [List.concat_eq_append, ← List.append_assoc]
    exact .concat (isKeyChar_of_isBlank (hbl b (by simp))) _

theorem EndsApart.nameless {u : Text} (h : EndsApart u) : Nameless u :=
  ⟨u, [], (List.append_nil u).symm, h, by simp⟩

theorem Nameless.concat {u : Text} {c : Char} (h : Nameless u) (hc : isKeyChar c = true)
    (hstart : isNameStart c = false) : Nameless (u ++ [c]) := by
  obtain ⟨front, lead, rfl, hfront, hlead⟩ := h
  refine ⟨front, lead ++ [c], by simp, hfront, ?_⟩
  intro d hd
  rcases List.mem_append.1 hd with hd | hd
  · exact hlead d hd
  · obtain rfl := List.mem_singleton.1 hd
    exact ⟨hc, hstart⟩

theorem dropWhile_word {word rest : Text} (hword : ∀ c ∈ word, isKeyChar c = true)
    (hrest : ∀ c, rest.head? = some c → isKeyChar c = false) :
    (word ++ rest).dropWhile isKeyChar = rest := by
  rw [List.dropWhile_append_of_pos hword]
  cases rest with
  | nil => rfl
  | cons c rest => exact List.dropWhile_cons_of_neg (by simp [hrest c rfl])

theorem bare?_eq_none {c : Char} {t : Text} (hc : isKeyChar c = true) (h : bare? (c :: t) = none) :
    ¬ ColonFollows ((c :: t).dropWhile isKeyChar) := by
  intro hcolon
  obtain ⟨bl, hbl, hsplit⟩ := skipBlanks_split ((c :: t).dropWhile isKeyChar)
  obtain ⟨x, hx⟩ : ∃ x, skipBlanks ((c :: t).dropWhile isKeyChar) = ':' :: x := by
    cases hskip : skipBlanks ((c :: t).dropWhile isKeyChar) with
    | nil =>
      rw [ColonFollows, hskip] at hcolon
      cases hcolon
    | cons d x =>
      rw [ColonFollows, hskip] at hcolon
      obtain rfl := Option.some.inj hcolon
      exact ⟨x, rfl⟩
  have hname : (c :: t).takeWhile isKeyChar ≠ [] := by
    rw [List.takeWhile_cons_of_pos hc]
    exact List.cons_ne_nil c _
  rw [bare?_eq_some.2 ⟨hname, fun d hd => List.mem_takeWhile_imp hd, bl, x, hbl, ?_, rfl⟩] at h
  · cases h
  · rw [← hx, ← hsplit, List.takeWhile_append_dropWhile]

theorem drop_passed (u : Text) (c : Char) (v : Text) : (u ++ c :: v).drop (u.length + 1) = v := by
  rw [List.append_cons, List.drop_left' (by simp)]

/-- A step without a key ends apart from any word, or behind a name with no colon, or behind one
character of a word. -/
theorem step_skip {c : Char} {rest after : Text} (h : step c rest = .skip after) :
    (∃ passed d, c :: rest = passed ++ d :: after ∧ isKeyChar d = false) ∨
      (isNameStart c = true ∧ bare? (c :: rest) = none ∧ after = rest.dropWhile isNameChar) ∨
      (isKeyChar c = true ∧ isNameStart c = false ∧ after = rest) := by
  unfold step at h
  split_ifs at h with hopener hquote hstart
  · left
    cases hend : Delimiter.blockEnd? (c :: rest) with
    | none => simp [hend] at h
    | some n =>
      simp only [hend, Step.skip.injEq] at h
      obtain ⟨o, d, inside, back, hcloser, _, hsplit, rfl⟩ := Delimiter.blockEnd?_eq_some.1 hend
      rw [← List.cons_append] at hsplit
      refine ⟨o :: inside, d, ?_, ?_⟩
      · rw [← h, hsplit, ← @List.length_cons Char o, drop_passed]
      · unfold Delimiter.closer? at hcloser
        split_ifs at hcloser <;> obtain rfl := Option.some.inj hcloser <;> decide
  · left
    cases hkey : quoted? (c :: rest) with
    | some key => simp [hkey] at h
    | none =>
      cases hend : Delimiter.literalEnd? (c :: rest) with
      | none => simp [hkey, hend] at h
      | some n =>
        simp only [hkey, hend, Step.skip.injEq] at h
        rw [Delimiter.literalEnd?, if_pos hquote] at hend
        obtain ⟨k, hk, rfl⟩ := Option.map_eq_some_iff.1 hend
        obtain ⟨inside, back, rfl, rfl, _⟩ := Delimiter.quoteFrom_split hk
        refine ⟨c :: inside, c, ?_, ?_⟩
        · rw [← h, ← List.cons_append, ← @List.length_cons Char c, drop_passed]
        · rcases isQuote_iff.1 hquote with rfl | rfl | rfl <;> decide
  · right; left
    cases hbare : bare? (c :: rest) with
    | some key => simp [hbare] at h
    | none =>
      simp only [hbare, Step.skip.injEq] at h
      exact ⟨hstart, rfl, h.symm⟩
  · obtain rfl := Step.skip.inj h
    cases hc : isKeyChar c with
    | true => exact .inr (.inr ⟨rfl, by simpa using hstart, rfl⟩)
    | false => exact .inl ⟨[], c, rfl, hc⟩

/-- A key is read at its quotes or at the start of its name, as far as its value. -/
theorem step_eq_key {c : Char} {rest name after : Text} (h : step c rest = .key name after) :
    ∃ head bl bl', AllBlank bl ∧ AllBlank bl' ∧ c :: rest = head ++ (bl ++ ':' :: (bl' ++ after)) ∧
      ((∃ q, (q = '\'' ∨ q = '"') ∧ head = q :: (name ++ [q])) ∨
        head = name ∧ isNameStart c = true ∧ name ≠ [] ∧ ∀ d ∈ name, isKeyChar d = true) := by
  unfold step at h
  split_ifs at h with hopener hquote hstart
  · cases hend : Delimiter.blockEnd? (c :: rest) with
    | none => simp [hend] at h
    | some n => simp [hend] at h
  · cases hkey : quoted? (c :: rest) with
    | none =>
      cases hend : Delimiter.literalEnd? (c :: rest) with
      | none => simp [hkey, hend] at h
      | some n => simp [hkey, hend] at h
    | some key =>
      simp only [hkey, Step.key.injEq] at h
      obtain ⟨rfl, rfl⟩ := h
      obtain ⟨q, hq, _, _, bl, x, hbl, hsplit, hafter⟩ := quoted?_eq_some.1 hkey
      obtain ⟨bl', hbl', hx⟩ := skipBlanks_split x
      refine ⟨_, bl, bl', hbl, hbl', ?_, .inl ⟨q, hq, rfl⟩⟩
      rw [hafter, ← hx, hsplit]
      simp
  · cases hbare : bare? (c :: rest) with
    | none => simp [hbare] at h
    | some key =>
      simp only [hbare, Step.key.injEq] at h
      obtain ⟨rfl, rfl⟩ := h
      obtain ⟨hne, hname, bl, x, hbl, hsplit, hafter⟩ := bare?_eq_some.1 hbare
      obtain ⟨bl', hbl', hx⟩ := skipBlanks_split x
      refine ⟨_, bl, bl', hbl, hbl', ?_, .inr ⟨rfl, hstart, hne, hname⟩⟩
      rw [hafter, ← hx, hsplit]

theorem isKeyChar_of_isNameChar {c : Char} (h : isNameChar c = true) : isKeyChar c = true := by
  simp [isKeyChar, h]

/-- One step without a key keeps what the scan keeps true. -/
theorem Fresh.skip {u after rest : Text} {c : Char} (hu : Fresh u (c :: rest))
    (h : step c rest = .skip after) :
    ∃ passed, c :: rest = passed ++ after ∧ Fresh (u ++ passed) after := by
  obtain ⟨passed, d, hsplit, hd⟩ | ⟨hstart, hbare, rfl⟩ | ⟨hc, hstart, rfl⟩ := step_skip h
  · refine ⟨passed ++ [d], by simp [hsplit], fun _ => ?_⟩
    rw [← List.append_assoc]
    exact (EndsApart.concat hd _).nameless
  · -- the rest of the word, if there is one, has no colon behind it either
    obtain ⟨_, _, hc⟩ := isNameStart_ne hstart
    refine ⟨c :: rest.takeWhile isNameChar, ?_, fun hcolon => ?_⟩
    · rw [List.cons_append, List.takeWhile_append_dropWhile]
    · have hskip : (c :: rest).dropWhile isKeyChar =
          (rest.dropWhile isNameChar).dropWhile isKeyChar := by
        have hname : ∀ d ∈ rest.takeWhile isNameChar, isKeyChar d = true :=
          fun d hd => isKeyChar_of_isNameChar (List.mem_takeWhile_imp hd)
        conv_lhs => rw [List.dropWhile_cons_of_pos hc,
          ← @List.takeWhile_append_dropWhile _ isNameChar rest, List.dropWhile_append_of_pos hname]
      rw [← hskip] at hcolon
      exact absurd hcolon (bare?_eq_none hc hbare)
  · refine ⟨[c], rfl, fun hcolon => ?_⟩
    rw [← List.dropWhile_cons_of_pos hc] at hcolon
    exact (hu hcolon).concat hc hstart

def EndsWord (options : Text) (key : Key) : Prop :=
  ∃ front lead rest, IsWord options front (lead ++ key.name) rest ∧ ColonFollows rest ∧
    key.start = (front ++ lead).length ∧ (∀ c ∈ lead, isNameStart c = false) ∧
    ∃ c, key.name.head? = some c ∧ isNameStart c = true

/-- One step with a key keeps it as well, and the key ends its word or has quotes. -/
theorem Fresh.key {u after rest name : Text} {c : Char} (hu : Fresh u (c :: rest))
    (h : step c rest = .key name after) :
    (∃ passed, c :: rest = passed ++ after ∧ Fresh (u ++ passed) after) ∧
      ∀ stop, InQuotes (u ++ c :: rest) ⟨name, u.length, stop⟩ ∨
        EndsWord (u ++ c :: rest) ⟨name, u.length, stop⟩ := by
  obtain ⟨head, bl, bl', hbl, hbl', hsplit, hhead⟩ := step_eq_key h
  constructor
  · refine ⟨head ++ (bl ++ ':' :: bl'), by simp [hsplit], fun _ => ?_⟩
    have hcolon := (EndsApart.concat (show isKeyChar ':' = false by decide)
      (u ++ (head ++ bl))).blanks hbl'
    have heq : u ++ (head ++ (bl ++ ':' :: bl')) = u ++ (head ++ bl) ++ [':'] ++ bl' := by simp
    rw [heq]
    exact hcolon.nameless
  · intro stop
    rw [hsplit]
    rcases hhead with ⟨q, hq, rfl⟩ | ⟨rfl, hstart, hne, hname⟩
    · exact .inl ⟨u, q, bl ++ ':' :: (bl' ++ after), hq, by simp, rfl⟩
    · right
      have hafter : ∀ d, (bl ++ ':' :: (bl' ++ after)).head? = some d → isKeyChar d = false :=
        fun d hd => (head_of_colon hbl hd).1
      have hcolon : ColonFollows (bl ++ ':' :: (bl' ++ after)) := by
        rw [ColonFollows, skipBlanks_colon hbl]
        rfl
      have hdrop := dropWhile_word hname hafter
      rw [← hsplit] at hdrop
      obtain ⟨front, lead, rfl, hfront, hlead⟩ := hu (by rwa [hdrop])
      refine ⟨front, lead, _, ⟨by simp, by simp [hne], ?_, hfront, hafter⟩, hcolon, rfl,
        fun d hd => (hlead d hd).2, c, ?_, hstart⟩
      · intro d hd
        rcases List.mem_append.1 hd with hd | hd
        · exact (hlead d hd).1
        · exact hname d hd
      · obtain ⟨d, head, rfl⟩ := List.exists_cons_of_ne_nil hne
        exact congrArg some (List.cons.inj hsplit).1.symm

/-- A run of the scan finds no other keys. -/
theorem Fresh.scanFrom {pos : Nat} {t : Text} {key : Key} (h : key ∈ Key.scanFrom pos t) :
    ∀ u, u.length = pos → Fresh u t → InQuotes (u ++ t) key ∨ EndsWord (u ++ t) key := by
  fun_induction Key.scanFrom pos t with
  | case1 => cases h
  | case2 => cases h
  | case3 pos c rest after hstep hle ih =>
    rintro u rfl hu
    obtain ⟨passed, hsplit, hnext⟩ := hu.skip hstep
    rw [hsplit, ← List.append_assoc]
    refine ih h (u ++ passed) ?_ hnext
    have := congrArg List.length hsplit
    simp only [List.length_append, List.length_cons] at this ⊢
    omega
  | case4 => cases h
  | case5 pos c rest name after hstep hle stop ih =>
    rintro u rfl hu
    obtain ⟨⟨passed, hsplit, hnext⟩, hkey⟩ := hu.key hstep
    rcases List.mem_cons.1 h with rfl | h
    · exact hkey stop
    · rw [hsplit, ← List.append_assoc]
      refine ih h (u ++ passed) ?_ hnext
      have := congrArg List.length hsplit
      simp only [List.length_append, List.length_cons] at this
      simp only [List.length_append, stop]
      omega
  | case6 => cases h

theorem inQuotes_or_endsWord {options : Text} {key : Key} (h : key ∈ scan options) :
    InQuotes options key ∨ EndsWord options key := by
  unfold scan at h
  split at h
  · next rest =>
    have hfresh : Fresh ['{'] rest := fun _ => (EndsApart.concat (by decide) []).nameless
    exact Fresh.scanFrom h ['{'] rfl hfresh
  · have hfresh : Fresh [] options := fun _ => EndsApart.nameless (by intro c hc; cases hc)
    exact Fresh.scanFrom h [] rfl hfresh

variable {options : Text} {key : Key}

/-- A key that ends its word is whole if and only if nothing of the word stands before it. -/
theorem isWhole_iff_lead {front lead rest : Text}
    (hword : IsWord options front (lead ++ key.name) rest)
    (hstart : key.start = (front ++ lead).length) {c : Char} (hc : key.name.head? = some c)
    (hname : isNameStart c = true) : IsWhole options key ↔ lead = [] := by
  have hsplit : options = (front ++ lead) ++ (key.name ++ rest) := by
    rw [hword.split]
    simp
  constructor
  · rintro (⟨front', q, rest', hq, hsplit', hstart'⟩ | ⟨front', rest', hword', hstart'⟩)
    · obtain ⟨name, hcons⟩ := List.head?_eq_some_iff.1 hc
      rw [hsplit', hcons] at hsplit
      obtain ⟨_, htail⟩ := List.append_inj hsplit (hstart'.symm.trans hstart)
      obtain rfl := (List.cons.inj htail).1
      rcases hq with rfl | rfl <;> exact absurd hname (by decide)
    · have hlength := hstart'.symm.trans hstart
      obtain ⟨rfl, _⟩ := List.append_inj (hword'.split.symm.trans hsplit) hlength
      rcases List.eq_nil_or_concat lead with rfl | ⟨lead, d, rfl⟩
      · rfl
      · have hd := hword.chars d (by simp)
        have hapart := hword'.before d (by simp)
        rw [hd] at hapart
        cases hapart
  · rintro rfl
    exact .inr ⟨front, rest, hword, by simpa using hstart⟩

/-- A key that ends its word is what is left of it from the first character that starts a name on. -/
theorem EndsWord.isWhole_iff (h : EndsWord options key) :
    ∃ front word rest, IsWord options front word rest ∧ ColonFollows rest ∧
      key.name = word.dropWhile (fun c => !isNameStart c) ∧
      key.start + key.name.length = (front ++ word).length ∧
      (IsWhole options key ↔ ∃ c, word.head? = some c ∧ isNameStart c = true) := by
  obtain ⟨front, lead, rest, hword, hcolon, hstart, hlead, c, hc, hname⟩ := h
  refine ⟨front, lead ++ key.name, rest, hword, hcolon, ?_, ?_, ?_⟩
  · obtain ⟨_, hcons⟩ := List.head?_eq_some_iff.1 hc
    rw [List.dropWhile_append_of_pos fun d hd => by simp [hlead d hd], hcons,
      List.dropWhile_cons_of_neg (by simp [hname])]
  · rw [hstart]
    simp [Nat.add_assoc]
  · rw [isWhole_iff_lead hword hstart hc hname]
    constructor
    · rintro rfl
      exact ⟨c, hc, hname⟩
    · rintro ⟨d, hd, hdname⟩
      cases lead with
      | nil => rfl
      | cons e lead =>
        obtain rfl := Option.some.inj hd
        rw [hlead e (by simp)] at hdname
        cases hdname

/-- Every key of an options text is in quotes or is the end of its word, from the first character
that starts a name on; and such a key is whole if and only if its word starts with such a character.
So all keys are whole where every word before a colon does. -/
theorem scan_whole_iff (options : Text) :
    (∀ key ∈ scan options, InQuotes options key ∨
      ∃ front word rest, IsWord options front word rest ∧ ColonFollows rest ∧
        key.name = word.dropWhile (fun c => !isNameStart c) ∧
        key.start + key.name.length = (front ++ word).length ∧
        (IsWhole options key ↔ ∃ c, word.head? = some c ∧ isNameStart c = true)) ∧
    ((∀ front word rest, IsWord options front word rest → ColonFollows rest →
        ∃ c, word.head? = some c ∧ isNameStart c = true) →
      ∀ key ∈ scan options, IsWhole options key) := by
  constructor
  · exact fun key h => (inQuotes_or_endsWord h).imp_right EndsWord.isWhole_iff
  · intro hwords key h
    rcases inQuotes_or_endsWord h with hquotes | hends
    · exact .inl hquotes
    · obtain ⟨front, word, rest, hword, hcolon, _, _, hwhole⟩ := hends.isWhole_iff
      exact hwhole.2 (hwords front word rest hword hcolon)

/-- The number starts as no name does, but no colon follows it. -/
theorem scan_whole_iff_bare :
    let options := "a: 2".toList
    let key : Key := ⟨"a".toList, 0, 3⟩
    (∀ front word rest, IsWord options front word rest → ColonFollows rest →
      ∃ c, word.head? = some c ∧ isNameStart c = true) ∧
    key ∈ scan options ∧ IsWhole options key ∧
    (InQuotes options key ∨ ∃ front word rest, IsWord options front word rest ∧
      key.name = word.dropWhile fun c => !isNameStart c) := by
  intro options key
  have hcolons : ∀ n ≤ options.length, ColonFollows (options.drop n) → n = 1 := by
    unfold ColonFollows
    decide
  have hwords : ∀ front word rest, IsWord options front word rest → ColonFollows rest →
      ∃ c, word.head? = some c ∧ isNameStart c = true := by
    intro front word rest hword hcolon
    have hsplit : options = (front ++ word) ++ rest := by rw [hword.split, List.append_assoc]
    have hlength : (front ++ word).length = 1 := by
      refine hcolons _ ?_ ?_
      · rw [hsplit]
        simp only [List.length_append]
        omega
      · rwa [hsplit, List.drop_left]
    have hfront : front ++ word = ['a'] := by
      have htake := congrArg (List.take 1) hsplit
      rw [← hlength, List.take_left, hlength] at htake
      exact htake.symm
    rcases List.append_eq_singleton_iff.1 hfront with ⟨_, rfl⟩ | ⟨_, rfl⟩
    · exact ⟨'a', rfl, by decide⟩
    · exact absurd rfl hword.nonempty
  have hkey : key ∈ scan options := by decide +kernel
  refine ⟨hwords, hkey, (scan_whole_iff options).2 hwords key hkey, ?_⟩
  rcases (scan_whole_iff options).1 key hkey with hquotes | ⟨front, word, rest, hword, _, hname, _⟩
  · exact .inl hquotes
  · exact .inr ⟨front, word, rest, hword, hname⟩

/-- A letter that starts no name goes before `data`, and the rest of the word is a key. -/
theorem scan_whole_iff_accent :
    let options := "\x7b édata: 1 \x7d".toList
    let key : Key := ⟨"data".toList, 3, 9⟩
    key ∈ scan options ∧ ¬ IsWhole options key ∧ Options.body? options = some ['1'] := by
  intro options key
  have hword : IsWord options "\x7b ".toList ("é".toList ++ key.name) ": 1 \x7d".toList := by
    refine ⟨by decide, by decide, by decide, fun c hc => ?_, fun c hc => ?_⟩
    · obtain rfl : ' ' = c := Option.some.inj hc
      decide
    · obtain rfl : ':' = c := Option.some.inj hc
      decide
  have hhead : key.name.head? = some 'd' := rfl
  have hwhole := isWhole_iff_lead hword rfl hhead (by decide)
  refine ⟨by decide +kernel, fun h => ?_, by decide +kernel⟩
  have hnil := hwhole.1 h
  revert hnil
  decide

end Key
end EndpointManifest
