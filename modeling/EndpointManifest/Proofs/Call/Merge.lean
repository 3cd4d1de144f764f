import EndpointManifest.Proofs.Call.Local

/-! The calls of both shapes in one order. No two matches of a search overlap and each holds its own
parenthesis, so calls of one shape open at different places; calls of different shapes do so because
no parenthesis stands both behind a verb and behind `fetch`. -/

namespace EndpointManifest.Call

open Text

variable {clients : List Text} {t : Text}

/-- A pattern that takes the first parenthesis of the text with every match. -/
def TakesParen {α : Type} (p : Pattern α) : Prop :=
  ∀ before v value after, p before v = some (value, after) →
    ∃ head body, v = head ++ '(' :: body ∧ '(' ∉ head ∧ after.length ≤ body.length

theorem Opened.length_le {v url after head body : Text} (h : Opened v url after head body) :
    after.length ≤ body.length := by
  obtain ⟨q, _, _, _, hliteral⟩ := plainLiteral?_eq_some.1 h.literal
  obtain ⟨bl, _, hbody⟩ := skipBlanks_split body
  rw [hbody, hliteral]
  simp only [List.length_append, List.length_cons]
  omega

theorem takesParen_method (hc : Named clients) : TakesParen (methodPattern clients) := by
  intro before v value after h
  obtain ⟨object, gap, word, back, body, _, _, _, _, hopened⟩ := opened_of_methodPattern hc h
  exact ⟨_, body, hopened.split, hopened.no_paren, hopened.length_le⟩

theorem takesParen_fetch : TakesParen fetchPattern := by
  intro before v value after h
  obtain ⟨object, word, back, body, _, _, hopened⟩ := opened_of_fetchPattern h
  exact ⟨_, body, hopened.split, hopened.no_paren, hopened.length_le⟩

def opening (t : Text) (offset : Nat) : Nat := (bound t offset).1

theorem opening_split {head : Text} (hhead : '(' ∉ head) (u body : Text) :
    opening (u ++ (head ++ '(' :: body)) u.length = u.length + head.length := by
  rw [opening, bound, List.drop_left, findIdx_paren hhead]

theorem le_opening (t : Text) (n : Nat) : n ≤ opening t n := Nat.le_add_right ..

theorem findIdx_le_drop {α : Type} (p : α → Bool) (l : List α) (n : Nat) :
    l.findIdx p ≤ n + (l.drop n).findIdx p := by
  induction n generalizing l with
  | zero => simp
  | succ n ih =>
    cases l with
    | nil => simp
    | cons c l =>
      have hrest := ih l
      rw [List.drop_succ_cons, List.findIdx_cons]
      cases p c with
      | true => exact Nat.zero_le _
      | false =>
        simp only [cond_false]
        omega

theorem opening_mono (t : Text) {m n : Nat} (h : m ≤ n) : opening t m ≤ opening t n := by
  obtain ⟨k, rfl⟩ := Nat.exists_eq_add_of_le h
  have hle := findIdx_le_drop (· == '(') (t.drop m) k
  rw [List.drop_drop] at hle
  simp only [opening, bound]
  omega

/-- Each match of such a pattern opens before the next one starts. -/
theorem TakesParen.pairwise {α : Type} {p : Pattern α} (hp : TakesParen p) (t : Text) :
    (findAll p t).Pairwise fun f g => opening t f.start < g.start := by
  refine (findAll_apart p t).imp_of_mem ?_
  intro f g hf _ hapart
  obtain ⟨u, v, after, rfl, hstart, hmatch⟩ := match_of_mem_findAll hf
  have hend := hapart u v after rfl hstart hmatch
  obtain ⟨head, body, rfl, hhead, hlen⟩ := hp _ _ _ _ hmatch
  rw [hstart, opening_split hhead]
  simp only [List.length_append, List.length_cons] at hend
  omega

def Distinct (a b : Call) : Prop := a.offset ≠ b.offset ∧ a.openIndex ≠ b.openIndex

theorem Distinct.symm {a b : Call} (h : Distinct a b) : Distinct b a := ⟨h.1.symm, h.2.symm⟩

theorem openIndex_eq_opening {call : Call} (h : call ∈ methodCalls t clients ∨ call ∈ fetchCalls t) :
    call.openIndex = opening t call.offset := by
  rcases h with h | h
  · obtain ⟨f, _, rfl⟩ := List.mem_map.1 h
    rfl
  · obtain ⟨f, _, hcall⟩ := List.mem_filterMap.1 h
    obtain ⟨m, _, rfl⟩ := Option.map_eq_some_iff.1 hcall
    rfl

theorem distinct_of_lt {m n : Nat} (h : opening t m < n) : m ≠ n ∧ opening t m ≠ opening t n := by
  have hm := le_opening t m
  have hn := le_opening t n
  omega

theorem methodCalls_distinct (hc : Named clients) (t : Text) :
    (methodCalls t clients).Pairwise Distinct := by
  refine List.pairwise_map.2 (((takesParen_method hc).pairwise t).imp ?_)
  intro f g h
  exact distinct_of_lt h

theorem fetchCalls_distinct (t : Text) : (fetchCalls t).Pairwise Distinct := by
  refine List.pairwise_filterMap.2 ((takesParen_fetch.pairwise t).imp ?_)
  intro f g h a ha b hb
  obtain ⟨m, _, rfl⟩ := Option.map_eq_some_iff.1 ha
  obtain ⟨m', _, rfl⟩ := Option.map_eq_some_iff.1 hb
  exact distinct_of_lt h

/-- What stands before the parenthesis of a call on a client ends in a verb. -/
theorem take_openIndex_method (hc : Named clients) {call : Call} (h : call ∈ methodCalls t clients) :
    ∃ front word back, t.take call.openIndex = front ++ (word ++ back) ∧
      SameLetters call.method.verb word ∧ AllBlank back := by
  obtain ⟨f, hf, rfl⟩ := List.mem_map.1 h
  obtain ⟨u, v, after, rfl, hstart, hmatch⟩ := match_of_mem_findAll hf
  obtain ⟨object, gap, word, back, body, _, _, hword, hback, hopened⟩ :=
    opened_of_methodPattern hc hmatch
  refine ⟨u ++ (object ++ '.' :: gap), word, back, ?_, hword, hback⟩
  show (u ++ v).take (opening (u ++ v) f.start) = _
  rw [hstart, hopened.split, opening_split hopened.no_paren, List.take_length_add_append,
    List.take_left]
  simp

/-- What stands before the parenthesis of a `fetch` ends in that word. -/
theorem take_openIndex_fetch {call : Call} (h : call ∈ fetchCalls t) :
    ∃ front word back, t.take call.openIndex = front ++ (word ++ back) ∧
      SameLetters "fetch".toList word ∧ AllBlank back := by
  obtain ⟨f, hf, hcall⟩ := List.mem_filterMap.1 h
  obtain ⟨m, _, rfl⟩ := Option.map_eq_some_iff.1 hcall
  obtain ⟨u, v, after, rfl, hstart, hmatch⟩ := match_of_mem_findAll hf
  obtain ⟨object, word, back, body, hword, hback, hopened⟩ := opened_of_fetchPattern hmatch
  refine ⟨u ++ object, word, back, ?_, hword, hback⟩
  show (u ++ v).take (opening (u ++ v) f.start) = _
  rw [hstart, hopened.split, opening_split hopened.no_paren, List.take_length_add_append,
    List.take_left]
  simp

theorem shapes_distinct (hc : Named clients) {a b : Call} (ha : a ∈ methodCalls t clients)
    (hb : b ∈ fetchCalls t) : Distinct a b := by
  have hopen : a.openIndex ≠ b.openIndex := by
    intro heq
    obtain ⟨front, word, back, htake, hword, hback⟩ := take_openIndex_method hc ha
    obtain ⟨front', word', back', htake', hword', hback'⟩ := take_openIndex_fetch hb
    rw [heq, htake'] at htake
    exact verb_ne_fetch hword hback hword' hback' htake.symm
  refine ⟨fun hoffset => hopen ?_, hopen⟩
  rw [openIndex_eq_opening (.inl ha), @openIndex_eq_opening clients t b (.inr hb), hoffset]

theorem findCalls_perm (t : Text) (clients : List Text) :
    (findCalls t clients).Perm (methodCalls t clients ++ fetchCalls t) :=
  List.mergeSort_perm ..

theorem findCalls_sorted (t : Text) (clients : List Text) :
    (findCalls t clients).Pairwise fun a b => a.offset ≤ b.offset := by
  have hsorted := @List.pairwise_mergeSort Call (fun a b => a.offset ≤ b.offset)
    (fun a b c hab hbc => by simp only [decide_eq_true_eq] at *; omega)
    (fun a b => by simp only [Bool.or_eq_true, decide_eq_true_eq]; omega)
    (methodCalls t clients ++ fetchCalls t)
  exact hsorted.imp fun h => of_decide_eq_true h

/-- The calls of a source are those of the two shapes, each once. They ascend in the place where
they start and in the place where they open, and no place is that of a call of both shapes. -/
theorem findCalls_merge (hc : Named clients) (t : Text) :
    (findCalls t clients).Perm (methodCalls t clients ++ fetchCalls t) ∧
      (findCalls t clients).Nodup ∧
      (findCalls t clients).Pairwise
        (fun a b => a.offset < b.offset ∧ a.openIndex < b.openIndex) ∧
      ∀ a ∈ methodCalls t clients, ∀ b ∈ fetchCalls t,
        a.offset ≠ b.offset ∧ a.openIndex ≠ b.openIndex := by
  have hperm := findCalls_perm t clients
  have hdistinct : (findCalls t clients).Pairwise Distinct := by
    refine (hperm.pairwise_iff Distinct.symm).2 (List.pairwise_append.2 ⟨?_, ?_, ?_⟩)
    · exact methodCalls_distinct hc t
    · exact fetchCalls_distinct t
    · exact fun a ha b hb => shapes_distinct hc ha hb
  have hascending : (findCalls t clients).Pairwise
      fun a b => a.offset < b.offset ∧ a.openIndex < b.openIndex := by
    refine (hdistinct.and (findCalls_sorted t clients)).imp_of_mem ?_
    rintro a b ha hb ⟨⟨hoffset, hopen⟩, hle⟩
    have hmono := opening_mono t hle
    rw [← openIndex_eq_opening (List.mem_append.1 (hperm.mem_iff.1 ha)),
      ← openIndex_eq_opening (List.mem_append.1 (hperm.mem_iff.1 hb))] at hmono
    omega
  refine ⟨hperm, ?_, hascending, fun a ha b hb => shapes_distinct hc ha hb⟩
  refine hdistinct.imp ?_
  rintro a b h rfl
  exact h.1 rfl

/-- A client named `fetch`, and both shapes with blanks between their parts. -/
theorem findCalls_merge_mixed :
    let t := "a.fetch ('/a'); fetch.post( `/b`, \x7b\x7d); FETCH.get('/c'); fetch(\"/d\")".toList
    let clients := ["fetch".toList]
    Named clients ∧
      (methodCalls t clients).map (fun call => (call.offset, call.openIndex)) =
        [(16, 26), (39, 48)] ∧
      (fetchCalls t).map (fun call => (call.offset, call.openIndex)) = [(0, 8), (56, 61)] ∧
      (findCalls t clients).Perm (methodCalls t clients ++ fetchCalls t) ∧
      (findCalls t clients).Pairwise
        (fun a b => a.offset < b.offset ∧ a.openIndex < b.openIndex) := by
  intro t clients
  have hc : Named clients := by unfold Named; decide
  obtain ⟨hperm, _, hascending, _⟩ := findCalls_merge hc t
  exact ⟨hc, by decide +kernel, by decide +kernel, hperm, hascending⟩

end EndpointManifest.Call
