import EndpointManifest.Json.Reader
import EndpointManifest.Proofs.Json.Fits
import EndpointManifest.Proofs.Text.Number

/-! Reading JSON text gives back the value it was printed from. What may stand behind a value is
said by `Follows`: only behind a number does it matter. -/

namespace EndpointManifest.Json

open Text

theorem hexValue?_hexDigit : ∀ n < 16, hexValue? (hexDigit n) = some n := by decide

/-- A control character without a short form is read back from its number. -/
theorem unit?_hexDigit {n : Nat} (h : n < 32) :
    unit? '0' '0' (hexDigit (n / 16)) (hexDigit (n % 16)) = some n := by
  have hzero : hexValue? '0' = some 0 := by decide
  rw [unit?, hzero, hexValue?_hexDigit _ (by omega), hexValue?_hexDigit _ (by omega)]
  simp only [Option.bind_eq_bind, Option.bind_some, Option.pure_def, Option.some.injEq]
  omega

theorem stringRest?_plain {c : Char} (hquote : c ≠ '"') (hslash : c ≠ '\\') (hsize : 32 ≤ c.toNat)
    (t : Text) : stringRest? (c :: t) = (stringRest? t).map fun (s, rest) => (c :: s, rest) := by
  have hsmall : ¬ c.toNat < 32 := by omega
  rw [stringRest?.eq_def]
  split
  · next h => cases h
  · next h => exact absurd (List.cons.inj h).1 hquote
  · next h => exact absurd (List.cons.inj h).1 hslash
  · next h => exact absurd (List.cons.inj h).1 hslash
  · next h =>
    obtain ⟨rfl, rfl⟩ := List.cons.inj h
    simp [hsmall, hslash]

theorem stringRest?_escapeChar (c : Char) (t : Text) :
    stringRest? (escapeChar c ++ t) = (stringRest? t).map fun (s, rest) => (c :: s, rest) := by
  unfold escapeChar
  split
  · next h => subst h; rfl
  split
  · next h => subst h; rfl
  split
  · next h => subst h; rfl
  split
  · next h => subst h; rfl
  split
  · next h => subst h; rfl
  split
  · next h => rw [eq_of_toNat (c := c) (d := '\x08') h]; rfl
  split
  · next h => rw [eq_of_toNat (c := c) (d := '\x0c') h]; rfl
  split
  · next h =>
    have hlow : ¬ 0xD800 ≤ c.toNat := by omega
    have hhigh : ¬ 0xDC00 ≤ c.toNat := by omega
    simp [stringRest?, unit?_hexDigit h, hlow, hhigh, Char.ofNat_toNat]
  · next hquote hslash _ _ _ _ _ hsize =>
    exact stringRest?_plain hquote hslash (by omega) t

/-- The content of a string comes back, and what stands behind its closing quote is left. -/
theorem stringRest?_escaped (s rest : Text) :
    stringRest? (s.flatMap escapeChar ++ '"' :: rest) = some (s, rest) := by
  induction s with
  | nil => rfl
  | cons c s ih =>
    rw [List.flatMap_cons, List.append_assoc, stringRest?_escapeChar, ih]
    rfl

/-- Behind a value comes a comma or a new line, or nothing. -/
def Follows (rest : Text) : Prop := ∀ c ∈ rest.head?, c = ',' ∨ c = '\n'

theorem Follows.not_digit {rest : Text} (h : Follows rest) :
    ∀ c ∈ rest.head?, isAsciiDigit c = false := by
  intro c hc
  obtain rfl | rfl := h c hc <;> decide

/-- A leading zero stands alone, and every other number is read to the end of its digits. -/
theorem number?_ofNat (negative : Bool) {n : Nat} (hsize : (ofNat n).length ≤ maxDigits)
    {rest : Text} (h : Follows rest) :
    number? negative (ofNat n ++ rest) = some (.int (if negative then -n else n), rest) := by
  have hread : ¬ ((ofNat n).isEmpty || maxDigits < (ofNat n).length) = true := by
    simpa [ofNat_ne_nil] using hsize
  unfold number?
  split
  · next digits after hsplit =>
    have hdigits : digits = ofNat n ∧ after = rest := by
      revert hsplit
      split
      · next t heq =>
        intro hsplit
        obtain ⟨rfl, rfl⟩ := Prod.mk.inj hsplit
        obtain ⟨c, ds, hds⟩ := List.exists_cons_of_ne_nil (ofNat_ne_nil n)
        rw [hds, List.cons_append] at heq
        obtain ⟨rfl, htail⟩ := List.cons.inj heq
        have hzero := ofNat_of_zero hds
        subst hzero
        have hnil : ds = [] := (List.cons.inj (hds.symm.trans (Nat.toDigits_zero 10))).2
        subst hnil
        exact ⟨hds.symm, htail.symm⟩
      · intro hsplit
        rw [span_ofNat n h.not_digit] at hsplit
        obtain ⟨rfl, rfl⟩ := Prod.mk.inj hsplit
        exact ⟨rfl, rfl⟩
    obtain ⟨rfl, rfl⟩ := hdigits
    rw [if_neg hread, natOfDigits_ofNat]

theorem renderInt_neg {n : Int} (h : n < 0) : renderInt n = '-' :: ofNat n.natAbs := if_pos h

theorem renderInt_nonneg {n : Int} (h : ¬ n < 0) : renderInt n = ofNat n.natAbs := if_neg h

/-- How the text of a value may start: neither with a blank nor with the end of a container. -/
def Starts (t : Text) : Prop :=
  ∃ c rest, t = c :: rest ∧ c ≠ ' ' ∧ c ≠ '\t' ∧ c ≠ '\n' ∧ c ≠ '\r' ∧ c ≠ ']' ∧ c ≠ '}'

theorem Starts.append {t : Text} (h : Starts t) (u : Text) : Starts (t ++ u) := by
  obtain ⟨c, rest, rfl, hc⟩ := h
  exact ⟨c, rest ++ u, rfl, hc⟩

theorem Starts.skipSpace {t : Text} (h : Starts t) : skipSpace t = t := by
  obtain ⟨c, rest, rfl, hspace, htab, hline, hreturn, _⟩ := h
  simp [Json.skipSpace, hspace, htab, hline, hreturn]

theorem Starts.not_close {t rest : Text} (h : Starts t) :
    t ≠ ']' :: rest ∧ t ≠ '\x7d' :: rest := by
  obtain ⟨c, rest, rfl, _, _, _, _, hlist, hobject⟩ := h
  exact ⟨fun heq => hlist (List.cons.inj heq).1, fun heq => hobject (List.cons.inj heq).1⟩

theorem starts_string (s : Text) : Starts (renderString s) :=
  ⟨'"', _, rfl, by decide⟩

def Numeric (t : Text) : Prop :=
  ∃ c rest, t = c :: rest ∧ ∀ d, isAsciiDigit d = false → d ≠ '-' → c ≠ d

theorem Numeric.starts {t : Text} (h : Numeric t) : Starts t := by
  obtain ⟨c, rest, rfl, hc⟩ := h
  exact ⟨c, rest, rfl, hc _ (by decide) (by decide), hc _ (by decide) (by decide),
    hc _ (by decide) (by decide), hc _ (by decide) (by decide), hc _ (by decide) (by decide),
    hc _ (by decide) (by decide)⟩

theorem numeric_ofNat (n : Nat) : Numeric (ofNat n) := by
  obtain ⟨c, ds, hds, hc⟩ := exists_ofNat_eq n
  exact ⟨c, ds, hds, fun d hd _ => hc d hd⟩

theorem numeric_renderInt (n : Int) : Numeric (renderInt n) := by
  unfold renderInt
  split
  · exact ⟨'-', _, rfl, fun d _ hminus => hminus.symm⟩
  · exact numeric_ofNat _

theorem starts_renderAt (level : Nat) (j : Json) : Starts (renderAt level j) := by
  cases j with
  | null => exact ⟨'n', _, rfl, by decide⟩
  | bool b => cases b <;> exact ⟨_, _, rfl, by decide⟩
  | int n => exact (numeric_renderInt n).starts
  | str s => exact starts_string s
  | arr items => cases items <;> exact ⟨'[', _, rfl, by decide⟩
  | obj members => cases members <;> exact ⟨'\x7b', _, rfl, by decide⟩

theorem skipSpace_newLine (level : Nat) (t : Text) :
    skipSpace (newLine level ++ t) = skipSpace t := by
  unfold newLine skipSpace
  rw [List.cons_append, List.dropWhile_cons_of_pos (by decide)]
  induction 2 * level with
  | zero => rfl
  | succ n ih =>
    rw [List.replicate_succ, List.cons_append, List.dropWhile_cons_of_pos (by decide), ih]

theorem skipSpace_comma (t : Text) : skipSpace (',' :: t) = ',' :: t := rfl

theorem skipSpace_colon (t : Text) : skipSpace (':' :: t) = ':' :: t := rfl

theorem skipSpace_space (t : Text) : skipSpace (' ' :: t) = skipSpace t := rfl

theorem renderString_append (s t : Text) :
    renderString s ++ t = '"' :: (s.flatMap escapeChar ++ '"' :: t) := by
  simp [renderString]

theorem literal?_ofNat (n : Nat) (rest : Text) :
    literal? (ofNat n ++ rest) = number? false (ofNat n ++ rest) := by
  obtain ⟨c, ds, hds, hother⟩ := exists_ofNat_eq n
  rw [hds, List.cons_append]
  unfold literal?
  split
  · next heq => exact absurd (List.cons.inj heq).1 (hother _ (by decide))
  · next heq => exact absurd (List.cons.inj heq).1 (hother _ (by decide))
  · next heq => exact absurd (List.cons.inj heq).1 (hother _ (by decide))
  · next heq => exact absurd (List.cons.inj heq).1 (hother _ (by decide))
  · rfl

theorem literal?_int {n : Int} (hsize : (ofNat n.natAbs).length ≤ maxDigits) {rest : Text}
    (h : Follows rest) : literal? (renderInt n ++ rest) = some (.int n, rest) := by
  by_cases hn : n < 0
  · have hnumber := number?_ofNat true hsize h
    have habs : (-(n.natAbs : Int)) = n := by omega
    rw [if_pos rfl, habs] at hnumber
    rw [renderInt_neg hn]
    exact hnumber
  · have habs : (n.natAbs : Int) = n := by omega
    rw [renderInt_nonneg hn, literal?_ofNat, number?_ofNat false hsize h, if_neg (by decide), habs]

theorem value?_literal {c : Char} (hstring : c ≠ '"') (hlist : c ≠ '[') (hobject : c ≠ '\x7b')
    (levels fuel : Nat) (t : Text) : value? levels (fuel + 1) (c :: t) = literal? (c :: t) := by
  unfold value?
  split
  · next heq => exact absurd (List.cons.inj heq).1 hstring
  · next heq => exact absurd (List.cons.inj heq).1 hlist
  · next heq => exact absurd (List.cons.inj heq).1 hobject
  · rfl

/-- Printed at a level, the value is read back where there are so many levels left, and what follows
it stays. -/
def ReadsBack (level levels : Nat) (j : Json) : Prop :=
  ∀ fuel rest, 2 * (renderAt level j).length ≤ fuel → Follows rest →
    value? levels fuel (renderAt level j ++ rest) = some (j, rest)

theorem length_renderAt (level : Nat) (j : Json) : 0 < (renderAt level j).length := by
  obtain ⟨c, rest, h, _⟩ := starts_renderAt level j
  simp [h]

theorem follows_renderItems (level outer : Nat) (items : List Json) (t : Text) :
    Follows (renderItems level items ++ (newLine outer ++ t)) := by
  cases items with
  | nil => rintro c ⟨⟩; exact .inr rfl
  | cons item items => rintro c ⟨⟩; exact .inl rfl

theorem follows_renderMembers (level outer : Nat) (members : List (Text × Json)) (t : Text) :
    Follows (renderMembers level members ++ (newLine outer ++ t)) := by
  cases members with
  | nil => rintro c ⟨⟩; exact .inr rfl
  | cons member members => rintro c ⟨⟩; exact .inl rfl

theorem items?_render {level levels : Nat} (outer : Nat) {items : List Json} :
    ∀ {item : Json}, (∀ i ∈ item :: items, ReadsBack level levels i) → ∀ fuel rest,
      2 * ((renderAt level item).length + (renderItems level items).length) < fuel →
      items? levels fuel (renderAt level item ++
        (renderItems level items ++ (newLine outer ++ ']' :: rest))) =
          some (item :: items, rest) := by
  induction items with
  | nil =>
    intro item hitems fuel rest hfuel
    obtain ⟨fuel, rfl⟩ : ∃ n, fuel = n + 1 := ⟨fuel - 1, by omega⟩
    have hitem := hitems item (List.mem_cons_self ..) fuel _ (by omega)
      (follows_renderItems level outer [] (']' :: rest))
    unfold items?
    rw [hitem]
    simp only [renderItems, List.nil_append, skipSpace_newLine]
    rfl
  | cons next items ih =>
    intro item hitems fuel rest hfuel
    obtain ⟨fuel, rfl⟩ : ∃ n, fuel = n + 1 := ⟨fuel - 1, by omega⟩
    have hitem := hitems item (List.mem_cons_self ..) fuel _ (by omega)
      (follows_renderItems level outer (next :: items) (']' :: rest))
    have hrest := ih (fun i hi => hitems i (List.mem_cons_of_mem _ hi)) fuel rest (by
      simp only [renderItems, List.length_append, List.length_cons] at hfuel
      omega)
    have hstart := ((starts_renderAt level next).append
      (renderItems level items ++ (newLine outer ++ ']' :: rest))).skipSpace
    unfold items?
    rw [hitem]
    simp only [renderItems, List.cons_append, List.append_assoc, skipSpace_comma]
    rw [skipSpace_newLine, hstart, hrest]
    rfl

theorem members?_render {level levels : Nat} (outer : Nat) {members : List (Text × Json)} :
    ∀ {key : Text} {value : Json}, (∀ m ∈ (key, value) :: members, ReadsBack level levels m.2) →
      ∀ fuel rest,
      2 * ((renderAt level value).length + (renderMembers level members).length) < fuel →
      members? levels fuel (renderString key ++ ':' :: ' ' :: (renderAt level value ++
        (renderMembers level members ++ (newLine outer ++ '\x7d' :: rest)))) =
        some ((key, value) :: members, rest) := by
  induction members with
  | nil =>
    intro key value hmembers fuel rest hfuel
    obtain ⟨fuel, rfl⟩ : ∃ n, fuel = n + 1 := ⟨fuel - 1, by omega⟩
    have hvalue := hmembers (key, value) (List.mem_cons_self ..) fuel _ (by dsimp only; omega)
      (follows_renderMembers level outer [] ('\x7d' :: rest))
    have hstart := ((starts_renderAt level value).append
      (renderMembers level [] ++ (newLine outer ++ '\x7d' :: rest))).skipSpace
    rw [renderString_append]
    unfold members?
    simp only [stringRest?_escaped, skipSpace_colon, skipSpace_space, hstart, hvalue]
    simp only [renderMembers, List.nil_append, skipSpace_newLine]
    rfl
  | cons next members ih =>
    intro key value hmembers fuel rest hfuel
    obtain ⟨nextKey, next⟩ := next
    obtain ⟨fuel, rfl⟩ : ∃ n, fuel = n + 1 := ⟨fuel - 1, by omega⟩
    have hvalue := hmembers (key, value) (List.mem_cons_self ..) fuel _ (by dsimp only; omega)
      (follows_renderMembers level outer ((nextKey, next) :: members) ('\x7d' :: rest))
    have hrest := ih (fun m hm => hmembers m (List.mem_cons_of_mem _ hm)) fuel rest (by
      simp only [renderMembers, List.length_append, List.length_cons] at hfuel
      omega)
    have hstart := ((starts_renderAt level value).append
      (renderMembers level ((nextKey, next) :: members) ++
        (newLine outer ++ '\x7d' :: rest))).skipSpace
    have hnext := ((starts_string nextKey).append (':' :: ' ' :: (renderAt level next ++
      (renderMembers level members ++ (newLine outer ++ '\x7d' :: rest))))).skipSpace
    rw [renderString_append]
    unfold members?
    simp only [stringRest?_escaped, skipSpace_colon, skipSpace_space, hstart, hvalue]
    simp only [renderMembers, List.cons_append, List.append_assoc, List.nil_append,
      skipSpace_comma, skipSpace_newLine]
    rw [hnext, hrest]
    rfl

theorem readsBack_literal {level levels : Nat} {j : Json} {c : Char} {t : Text}
    (heq : renderAt level j = c :: t) (hstring : c ≠ '"') (hlist : c ≠ '[') (hobject : c ≠ '\x7b')
    (hliteral : ∀ rest, Follows rest → literal? (renderAt level j ++ rest) = some (j, rest)) :
    ReadsBack level levels j := by
  intro fuel rest hfuel hfollows
  have hpos := length_renderAt level j
  obtain ⟨fuel, rfl⟩ : ∃ n, fuel = n + 1 := ⟨fuel - 1, by omega⟩
  have hread := hliteral rest hfollows
  rw [heq, List.cons_append] at hread ⊢
  rw [value?_literal hstring hlist hobject]
  exact hread

theorem readsBack_numeric {level levels : Nat} {j : Json} (h : Numeric (renderAt level j))
    (hliteral : ∀ rest, Follows rest → literal? (renderAt level j ++ rest) = some (j, rest)) :
    ReadsBack level levels j := by
  obtain ⟨c, t, heq, hc⟩ := h
  exact readsBack_literal heq (hc _ (by decide) (by decide)) (hc _ (by decide) (by decide))
    (hc _ (by decide) (by decide)) hliteral

theorem renderAt_str (level : Nat) (s : Text) : renderAt level (.str s) = renderString s := rfl

theorem renderAt_arr_cons (level : Nat) (item : Json) (items : List Json) :
    renderAt level (.arr (item :: items)) =
      '[' :: newLine (level + 1) ++ renderAt (level + 1) item ++ renderItems (level + 1) items ++
        newLine level ++ [']'] := rfl

theorem renderAt_obj_cons (level : Nat) (key : Text) (value : Json)
    (members : List (Text × Json)) :
    renderAt level (.obj ((key, value) :: members)) =
      '\x7b' :: newLine (level + 1) ++ renderString key ++ [':', ' '] ++
        renderAt (level + 1) value ++ renderMembers (level + 1) members ++
        newLine level ++ ['\x7d'] := rfl

theorem readsBack_str (level levels : Nat) (s : Text) : ReadsBack level levels (.str s) := by
  intro fuel rest hfuel _
  have hpos := length_renderAt level (.str s)
  obtain ⟨fuel, rfl⟩ : ∃ n, fuel = n + 1 := ⟨fuel - 1, by omega⟩
  rw [renderAt_str, renderString_append]
  unfold value?
  simp only [stringRest?_escaped]
  rfl

theorem readsBack_arr {level levels : Nat} {item : Json} {items : List Json}
    (h : ∀ i ∈ item :: items, ReadsBack (level + 1) levels i) :
    ReadsBack level (levels + 1) (.arr (item :: items)) := by
  intro fuel rest hfuel _
  simp only [renderAt_arr_cons, List.length_cons, List.length_append] at hfuel
  obtain ⟨fuel, rfl⟩ : ∃ n, fuel = n + 1 := ⟨fuel - 1, by omega⟩
  have hitems := items?_render level h fuel rest (by omega)
  have hstarts := (starts_renderAt (level + 1) item).append
    (renderItems (level + 1) items ++ (newLine level ++ ']' :: rest))
  simp only [renderAt_arr_cons, List.cons_append, List.append_assoc, List.nil_append]
  unfold value?
  simp only [skipSpace_newLine, hstarts.skipSpace]
  split
  · next heq => exact absurd heq hstarts.not_close.1
  · rw [hitems]
    rfl

theorem readsBack_obj {level levels : Nat} {member : Text × Json} {members : List (Text × Json)}
    (h : ∀ m ∈ member :: members, ReadsBack (level + 1) levels m.2) :
    ReadsBack level (levels + 1) (.obj (member :: members)) := by
  intro fuel rest hfuel _
  obtain ⟨key, value⟩ := member
  simp only [renderAt_obj_cons, List.length_cons, List.length_append] at hfuel
  obtain ⟨fuel, rfl⟩ : ∃ n, fuel = n + 1 := ⟨fuel - 1, by omega⟩
  have hmembers := members?_render level h fuel rest (by omega)
  have hstarts := (starts_string key).append (':' :: ' ' :: (renderAt (level + 1) value ++
    (renderMembers (level + 1) members ++ (newLine level ++ '\x7d' :: rest))))
  simp only [renderAt_obj_cons, List.cons_append, List.append_assoc, List.nil_append]
  unfold value?
  simp only [skipSpace_newLine, hstarts.skipSpace]
  split
  · next heq => exact absurd heq hstarts.not_close.2
  · rw [hmembers]
    rfl

theorem readsBack_empty (level levels : Nat) :
    ReadsBack level (levels + 1) (.arr []) ∧ ReadsBack level (levels + 1) (.obj []) := by
  constructor
  · rintro (_ | fuel) rest hfuel _
    · cases hfuel
    · rfl
  · rintro (_ | fuel) rest hfuel _
    · cases hfuel
    · rfl

/-- Every value that fits is read back from its text. -/
theorem Fits.readsBack {levels : Nat} {j : Json} (h : Fits levels j) (level : Nat) :
    ReadsBack level levels j := by
  induction h generalizing level with
  | null => exact readsBack_literal rfl (by decide) (by decide) (by decide) fun _ _ => rfl
  | bool b =>
    cases b <;> exact readsBack_literal rfl (by decide) (by decide) (by decide) fun _ _ => rfl
  | int hsize => exact readsBack_numeric (numeric_renderInt _) fun _ h => literal?_int hsize h
  | str s => exact readsBack_str level _ s
  | @arr levels items _ ih =>
    cases items with
    | nil => exact (readsBack_empty level levels).1
    | cons item items => exact readsBack_arr fun i hi => ih i hi (level + 1)
  | @obj levels members _ ih =>
    cases members with
    | nil => exact (readsBack_empty level levels).2
    | cons member members => exact readsBack_obj fun m hm => ih m hm (level + 1)

/-- A text that holds a printed value and nothing after it but a line feed gives the value. -/
theorem Fits.read?_renderAt {levels : Nat} {j : Json} (h : Fits levels j) {rest : Text}
    (hrest : rest = [] ∨ rest = ['\n']) : read? levels (renderAt 0 j ++ rest) = some j := by
  have hfollows : Follows rest := by
    obtain rfl | rfl := hrest
    · rintro c ⟨⟩
    · rintro c ⟨⟩
      exact .inr rfl
  have hblank : skipSpace rest = [] := by
    obtain rfl | rfl := hrest <;> rfl
  have hvalue := h.readsBack 0 (2 * (renderAt 0 j ++ rest).length + 1) rest
    (by simp only [List.length_append]; omega) hfollows
  have hstart : skipSpace (renderAt 0 j ++ rest) = renderAt 0 j ++ rest :=
    ((starts_renderAt 0 j).append rest).skipSpace
  unfold read?
  rw [hstart, hvalue]
  simp [hblank]

theorem read?_of_render {levels : Nat} {j : Json} {t : Text} (h : render levels j = .ok t)
    {rest : Text} (hrest : rest = [] ∨ rest = ['\n']) : read? levels (t ++ rest) = some j := by
  obtain ⟨hfits, rfl⟩ := render_eq_ok.1 h
  exact hfits.read?_renderAt hrest

/-- Different values have different texts. -/
theorem render_injective {levels : Nat} {j j' : Json} {t : Text} (h : render levels j = .ok t)
    (h' : render levels j' = .ok t) : j = j' := by
  have hread := read?_of_render h (.inl rfl)
  rw [read?_of_render h' (.inl rfl)] at hread
  exact (Option.some.inj hread).symm

end EndpointManifest.Json
