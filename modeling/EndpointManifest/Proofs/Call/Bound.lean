import EndpointManifest.Call.Basic
import EndpointManifest.Proofs.Delimiter
import EndpointManifest.Proofs.Text.CharClass
import EndpointManifest.Proofs.Text.Words

/-! A call whose arguments have balanced parentheses is bounded at their end, and its options are
the block that stands after the URL. -/

namespace EndpointManifest.Call

open Text Delimiter

theorem findIdx_paren {head : Text} (h : '(' ∉ head) (body : Text) :
    (head ++ '(' :: body).findIdx (· == '(') = head.length := by
  rw [List.findIdx_append, if_neg (by simpa using h), List.findIdx_cons]
  simp

/-- The parenthesis after the name is the first one from the call on, and the one that closes it
ends the arguments. -/
theorem bound_eq {u word arguments : Text} (hword : '(' ∉ word)
    (h : Balanced '(' ')' arguments) (v : Text) :
    bound (u ++ (word ++ '(' :: (arguments ++ ')' :: v))) u.length =
      (u.length + word.length, some (u.length + word.length + 1 + arguments.length),
        optionsOf arguments) := by
  have hblock := blockEnd?_closed rfl h v
  have hdrop : (u ++ (word ++ '(' :: (arguments ++ ')' :: v))).drop (u.length + word.length) =
      '(' :: (arguments ++ ')' :: v) := by
    rw [← List.drop_drop, List.drop_left, List.drop_left]
  have hclose : matching? (u ++ (word ++ '(' :: (arguments ++ ')' :: v)))
      ((u.length + word.length : Nat) : Int) =
        some (u.length + word.length + 1 + arguments.length) := by
    rw [matching?, if_neg (by omega), Int.toNat_natCast, hdrop, hblock]
    simp only [Option.map_some, Option.some.injEq]
    omega
  have htake : ((u ++ (word ++ '(' :: (arguments ++ ')' :: v))).drop
      (u.length + word.length + 1)).take
        (u.length + word.length + 1 + arguments.length - (u.length + word.length + 1)) =
      arguments := by
    rw [← List.drop_drop, hdrop, List.drop_one, List.tail_cons, Nat.add_sub_cancel_left,
      List.take_left]
  rw [bound, List.drop_left, findIdx_paren hword]
  simp only [hclose, htake]

theorem bound_closed {t options : Text} {offset openIndex close : Nat}
    (h : bound t offset = (openIndex, some close, options)) (hopen : t[openIndex]? = some '(') :
    ∃ inside after, t.drop (openIndex + 1) = inside ++ ')' :: after ∧
      close = openIndex + 1 + inside.length ∧ options = optionsOf inside ∧
      Balanced '(' ')' inside := by
  obtain ⟨hindex, hrest⟩ := Prod.mk.inj h
  obtain ⟨hclose, hoptions⟩ := Prod.mk.inj hrest
  rw [hindex] at hclose hoptions
  rw [hclose] at hoptions
  rw [matching?, if_neg (by omega), Int.toNat_natCast] at hclose
  obtain ⟨n, hn, rfl⟩ := Option.map_eq_some_iff.1 hclose
  obtain ⟨o, c, inside, after, hcloser, hbalanced, hdrop, rfl⟩ := blockEnd?_eq_some.1 hn
  obtain rfl : '(' = o := by
    rw [← List.head?_drop, hdrop] at hopen
    exact (Option.some.inj hopen).symm
  obtain rfl := Option.some.inj hcloser
  have hbody : t.drop (openIndex + 1) = inside ++ ')' :: after := by
    rw [← List.drop_drop, hdrop, List.drop_one, List.tail_cons]
  refine ⟨inside, after, hbody, by omega, ?_, hbalanced⟩
  have htake : (t.drop (openIndex + 1)).take (openIndex + (inside.length + 1) - (openIndex + 1)) =
      inside := by
    rw [hbody, Nat.add_sub_add_left, Nat.add_sub_cancel, List.take_left]
  rw [← hoptions]
  simp only [htake]

theorem drop_arguments (head inside after : Text) :
    (head ++ '(' :: (inside ++ ')' :: after)).drop (head.length + 1 + inside.length + 1) =
      after := by
  have hsplit : head ++ '(' :: (inside ++ ')' :: after) =
      (head ++ '(' :: (inside ++ [')'])) ++ after := by simp
  have hlength : head.length + 1 + inside.length + 1 =
      (head ++ '(' :: (inside ++ [')'])).length := by
    simp only [List.length_append, List.length_cons, List.length_nil]
    omega
  rw [hsplit, hlength, List.drop_left]

theorem dropFirstArgument_url {q : Char} {url rest : Text} (hq : isQuote q = true) (hne : url ≠ [])
    (hurl : q ∉ url) :
    dropFirstArgument (q :: (url ++ q :: rest)) = (afterMark? ',' rest).getD rest := by
  obtain ⟨c, url, rfl⟩ := List.exists_cons_of_ne_nil hne
  have hquote : quote? (q :: (c :: url ++ q :: rest)) = some (q, c :: url ++ q :: rest) :=
    quote?_eq_some.2 ⟨hq, rfl⟩
  have hpass : ∀ d ∈ url, (d != q) = true := by
    intro d hd
    refine bne_iff_ne.2 ?_
    rintro rfl
    exact hurl (.tail _ hd)
  have hwhile : (url ++ q :: rest).dropWhile (· != q) = q :: rest := by
    rw [List.dropWhile_append_of_pos hpass]
    simp
  rw [dropFirstArgument, skipBlanks_cons (isBlank_quote hq), hquote]
  simp only [List.cons_append, hwhile]

theorem dropFirstArgument_eq {q : Char} {url rest : Text} (hq : isQuote q = true)
    (hne : url ≠ []) (hurl : q ∉ url) :
    dropFirstArgument (q :: (url ++ q :: ',' :: rest)) = rest := by
  rw [dropFirstArgument_url hq hne hurl]
  rfl

/-- The options after a plain URL are the block that its braces close, whatever follows it. -/
theorem optionsOf_eq {q : Char} {url bl inside : Text} (hq : isQuote q = true) (hne : url ≠ [])
    (hurl : q ∉ url) (hbl : AllBlank bl) (h : Balanced '{' '}' inside) (after : Text) :
    optionsOf (q :: (url ++ q :: ',' :: (bl ++ '{' :: (inside ++ '}' :: after)))) =
      '{' :: (inside ++ ['}']) := by
  have htrim : trim (bl ++ '{' :: (inside ++ '}' :: after)) =
      '{' :: (inside ++ '}' :: dropTrailing isBlank after) := by
    rw [trim, skipBlanks_append hbl, skipBlanks_cons (by decide), ← List.cons_append,
      dropTrailing_append (by decide), List.cons_append]
  have hend := blockEnd?_closed rfl h (dropTrailing isBlank after)
  have hstart : startsWith ['{'] ('{' :: (inside ++ '}' :: dropTrailing isBlank after)) = true := rfl
  rw [optionsOf, dropFirstArgument_eq hq hne hurl]
  simp only [htrim, hend, hstart, if_true]
  rw [List.take_succ_cons, List.take_length_add_append]
  rfl

/-- Without its second quote a literal is not dropped, and no options follow. -/
theorem optionsOf_unclosed {q : Char} {t : Text} (hq : isQuote q = true) (ht : q ∉ t) :
    optionsOf (q :: t) = [] := by
  have hdrop : dropFirstArgument (q :: t) = q :: t := by
    have hquote : quote? (q :: t) = some (q, t) := quote?_eq_some.2 ⟨hq, rfl⟩
    rw [dropFirstArgument, skipBlanks_cons (isBlank_quote hq), hquote]
    cases t with
    | nil => rfl
    | cons d t =>
      have hpass : t.dropWhile (· != q) = [] := by
        refine List.dropWhile_eq_nil_iff.2 fun e he => bne_iff_ne.2 ?_
        rintro rfl
        exact ht (.tail _ he)
      simp only [hpass]
  have hstart : startsWith ['{'] (trim (q :: t)) = false := by
    have hbrace : q ≠ '{' := by
      rintro rfl
      exact absurd hq (by decide)
    rw [trim, skipBlanks_cons (isBlank_quote hq), ← List.nil_append (q :: t),
      dropTrailing_append (isBlank_quote hq)]
    simp [startsWith, List.isPrefixOf, hbrace.symm]
  rw [optionsOf, hdrop]
  simp only [hstart, Bool.false_eq_true, if_false]

theorem exists_of_optionsOf {q : Char} {url rest inside after : Text} (hq : isQuote q = true)
    (hne : url ≠ []) (hurl : q ∉ url)
    (hsplit : q :: (url ++ q :: ',' :: ' ' :: '{' :: rest) = inside ++ ')' :: after)
    (h : optionsOf inside ≠ []) :
    ∃ block z, Balanced '{' '}' block ∧ rest = block ++ '}' :: (z ++ ')' :: after) ∧
      inside = q :: (url ++ q :: ',' :: ' ' :: '{' :: (block ++ '}' :: z)) := by
  -- otherwise the arguments end in the URL
  obtain ⟨x, rfl, rfl⟩ : ∃ x, inside = q :: (url ++ q :: ',' :: ' ' :: '{' :: x) ∧
      rest = x ++ ')' :: after := by
    have hfront (x : Text) : q :: (url ++ q :: ',' :: ' ' :: '{' :: x) =
        q :: (url ++ [q, ',', ' ', '{']) ++ x := by simp
    rw [hfront] at hsplit
    rcases List.append_eq_append_iff.1 hsplit with ⟨x, rfl, hrest⟩ | ⟨x, hinside, hrest⟩
    · exact ⟨x, (hfront x).symm, hrest⟩
    cases x with
    | nil => exact ⟨[], by rw [hfront, hinside, List.append_nil, List.append_nil], hrest.symm⟩
    | cons d x =>
      obtain ⟨rfl, _⟩ := List.cons.inj hrest
      have hparen : ')' ∉ [q, ',', ' ', '{'] := by
        rcases isQuote_iff.1 hq with rfl | rfl | rfl <;> decide
      cases inside with
      | nil =>
        obtain ⟨rfl, _⟩ := List.cons.inj hinside
        exact absurd hq (by decide)
      | cons e inside =>
        obtain ⟨rfl, htail⟩ := List.cons.inj hinside
        refine absurd (optionsOf_unclosed hq fun hmem => ?_) h
        rcases List.append_eq_append_iff.1 htail with ⟨y, rfl, hy⟩ | ⟨y, rfl, _⟩
        · exact hparen (by rw [hy]; simp)
        · exact hurl (List.mem_append_left _ hmem)
  have hblank : AllBlank [' '] := by decide
  obtain ⟨bl, _, hbl⟩ := exists_trim_append (' ' :: '{' :: x)
  rw [← List.singleton_append, skipBlanks_append hblank, skipBlanks_cons (by decide)] at hbl
  rw [optionsOf, dropFirstArgument_eq hq hne hurl] at h
  cases hend : blockEnd? (trim (' ' :: '{' :: x)) with
  | none => simp [hend] at h
  | some n =>
    obtain ⟨o, c, block, z, hclose, hbalanced, htrim, _⟩ := blockEnd?_eq_some.1 hend
    rw [List.singleton_append, htrim] at hbl
    obtain ⟨rfl, hx⟩ := List.cons.inj hbl
    obtain rfl := Option.some.inj hclose
    have hx : x = block ++ '}' :: (z ++ bl) := by simpa using hx
    exact ⟨block, z ++ bl, hbalanced, by simp [hx], by rw [hx]⟩

end EndpointManifest.Call
