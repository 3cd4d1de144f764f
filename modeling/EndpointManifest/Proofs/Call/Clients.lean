import EndpointManifest.Proofs.Call.Local
import EndpointManifest.Proofs.Text.CharClass

/-! The clients act as a set. Behind the name of a client stand blanks and a point, which are the
same letter as no character of a name. So at most one name ends where a call goes on, and all
clients that fit there read the same call. -/

namespace EndpointManifest

open Text

namespace Text

theorem letterKey_toLower (c : Char) : letterKey c.toLower = letterKey c := by
  by_cases hc : c.toNat < 128
  · have hascii : ∀ n < 128, letterKey (Char.ofNat n).toLower = letterKey (Char.ofNat n) := by
      decide +kernel
    simpa [Char.ofNat_toNat] using hascii c.toNat hc
  · suffices hself : c.toLower = c by rw [hself]
    unfold Char.toLower
    rw [dif_neg]
    simp only [ge_iff_le, UInt32.le_iff_toNat_le, not_and, not_le]
    intro _
    exact lt_of_lt_of_le (by decide) (not_lt.1 hc)

theorem sameLetter_comm (a b : Char) : sameLetter a b = sameLetter b a := by
  simp only [sameLetter, BEq.comm]

theorem afterAnyCase?_congr {s s' : Text} (h : s.map letterKey = s'.map letterKey) (t : Text) :
    afterAnyCase? s t = afterAnyCase? s' t := by
  induction s generalizing s' t with
  | nil =>
    obtain rfl := List.map_eq_nil_iff.1 h.symm
    rfl
  | cons a s ih =>
    obtain ⟨a', s', rfl, ha, hs⟩ := List.map_eq_cons_iff.1 h.symm
    cases t with
    | nil => rfl
    | cons b t => simp only [afterAnyCase?, sameLetter, ha, ih hs.symm]

theorem afterAnyCase?_of_toLower {s s' : Text} (h : s.map Char.toLower = s'.map Char.toLower)
    (t : Text) : afterAnyCase? s t = afterAnyCase? s' t := by
  have hkeys : ∀ u : Text, u.map letterKey = (u.map Char.toLower).map letterKey := by
    intro u
    simp [letterKey_toLower]
  exact afterAnyCase?_congr (by rw [hkeys s, hkeys s', h]) t

/-- A text splits into a word without blanks or points, blanks, a point and the rest in one way. -/
theorem word_before_point {w w' bl bl' rest rest' : Text}
    (hw : ∀ c ∈ w, isBlank c = false ∧ c ≠ '.') (hw' : ∀ c ∈ w', isBlank c = false ∧ c ≠ '.')
    (hbl : AllBlank bl) (hbl' : AllBlank bl')
    (h : w ++ (bl ++ '.' :: rest) = w' ++ (bl' ++ '.' :: rest')) :
    w = w' ∧ bl ++ '.' :: rest = bl' ++ '.' :: rest' := by
  have hhead : ∀ {bl : Text} (rest), AllBlank bl →
      ∃ c v, bl ++ '.' :: rest = c :: v ∧ (isBlank c || c == '.') = true := by
    intro bl rest hbl
    cases bl with
    | nil => exact ⟨_, _, rfl, rfl⟩
    | cons c bl => exact ⟨_, _, rfl, by rw [hbl c (.head _), Bool.true_or]⟩
  obtain ⟨c, v, hc, hgap⟩ := hhead rest hbl
  obtain ⟨c', v', hc', hgap'⟩ := hhead rest' hbl'
  have hword : ∀ {w : Text}, (∀ c ∈ w, isBlank c = false ∧ c ≠ '.') →
      ∀ c ∈ w, (isBlank c || c == '.') = false := by
    intro w hw c hc
    simpa using hw c hc
  rw [hc, hc'] at h ⊢
  rcases split_first (hword hw) hgap' h with ⟨rfl, rfl, rfl⟩ | ⟨x, rfl, _⟩
  · exact ⟨rfl, rfl⟩
  · have := hword hw' c (by simp)
    rw [hgap] at this
    cases this

end Text

namespace Call

variable {clients clients' : List Text}

theorem Named.solid (hc : Named clients) {client word : Text} (hclient : client ∈ clients)
    (h : SameLetters client word) : ∀ c ∈ word, isBlank c = false ∧ c ≠ '.' := by
  intro c hmem
  obtain ⟨a, ha, hsame⟩ := h.symm.exists_mem hmem
  have hname := hc client hclient a ha
  constructor
  · refine Bool.eq_false_iff.2 fun hblank => ?_
    obtain rfl := eq_of_sameLetter_blank hblank ((sameLetter_comm a c).trans hsame)
    have hkey := isKeyChar_of_isBlank hblank
    rw [isKeyChar, hname] at hkey
    cases hkey
  · rintro rfl
    obtain rfl := eq_of_sameLetter_mark (by decide) (by decide) hsame
    exact absurd hname (by decide)

/-- Of the clients that fit at a position, all read the same call. -/
theorem Named.verbCall?_unique (hc : Named clients) {t : Text} :
    ∀ client ∈ clients, ∀ client' ∈ clients, ∀ r r',
      (afterAnyCase? client t).bind verbCall? = some r →
      (afterAnyCase? client' t).bind verbCall? = some r' → r = r' := by
  rintro client hclient client' hclient' ⟨⟨m, url⟩, rest⟩ ⟨⟨m', url'⟩, rest'⟩ h h'
  obtain ⟨u, hu, hcall⟩ := Option.bind_eq_some_iff.1 h
  obtain ⟨u', hu', hcall'⟩ := Option.bind_eq_some_iff.1 h'
  obtain ⟨word, hword, rfl⟩ := afterAnyCase?_eq_some.1 hu
  obtain ⟨word', hword', ht⟩ := afterAnyCase?_eq_some.1 hu'
  obtain ⟨bl, _, _, _, hbl, _, _, rfl, _⟩ := verbCall?_some hcall
  obtain ⟨bl', _, _, _, hbl', _, _, rfl, _⟩ := verbCall?_some hcall'
  have hsplit := word_before_point (hc.solid hclient hword) (hc.solid hclient' hword') hbl hbl' ht
  rw [hsplit.2, hcall'] at hcall
  exact (Option.some.inj hcall).symm

theorem methodPattern_of_ne_nil (hne : clients ≠ []) (hnames : [] ∉ clients) (before : Option Char)
    (t : Text) : methodPattern clients before t =
      if before.any isNameChar then none
      else clients.findSome? fun client => (afterAnyCase? client t).bind verbCall? := by
  have hnone : ¬ (clients = [] ∨ clients = [[]]) := by
    rintro (h | rfl)
    · exact hne h
    · exact hnames (.head _)
  rw [methodPattern, if_neg hnone]
  cases before.any isNameChar <;> rfl

def folded (clients : List Text) : List Text := clients.map (·.map Char.toLower)

theorem exists_fits_of_folded (h : folded clients ⊆ folded clients') {t : Text} {r}
    (hfits : ∃ client ∈ clients, (afterAnyCase? client t).bind verbCall? = some r) :
    ∃ client ∈ clients', (afterAnyCase? client t).bind verbCall? = some r := by
  obtain ⟨client, hclient, hr⟩ := hfits
  obtain ⟨client', hclient', heq⟩ := List.mem_map.1 (h (List.mem_map_of_mem hclient))
  exact ⟨client', hclient', by rw [afterAnyCase?_of_toLower heq, hr]⟩

theorem methodPattern_folded (hc : Named clients) (hc' : Named clients') (hnames : [] ∉ clients)
    (hnames' : [] ∉ clients') (h : folded clients ⊆ folded clients')
    (h' : folded clients' ⊆ folded clients) : methodPattern clients = methodPattern clients' := by
  by_cases hne : clients = []
  · subst hne
    obtain rfl : clients' = [] := List.map_eq_nil_iff.1 (List.subset_nil.1 h')
    rfl
  have hne' : clients' ≠ [] := by
    rintro rfl
    exact hne (List.map_eq_nil_iff.1 (List.subset_nil.1 h))
  funext before t
  rw [methodPattern_of_ne_nil hne hnames, methodPattern_of_ne_nil hne' hnames']
  refine if_congr Iff.rfl rfl (Option.ext fun r => ?_)
  rw [findSome?_eq_some_of_agree hc.verbCall?_unique,
    findSome?_eq_some_of_agree hc'.verbCall?_unique]
  exact ⟨exists_fits_of_folded h, exists_fits_of_folded h'⟩

/-- Clients with the same names, in any order, any number of times and in any case of their ASCII
letters, have the same calls. -/
theorem methodCalls_folded (hc : Named clients) (hc' : Named clients') (hnames : [] ∉ clients)
    (hnames' : [] ∉ clients') (hsame : ∀ name, name ∈ folded clients ↔ name ∈ folded clients')
    (t : Text) : methodCalls t clients = methodCalls t clients' := by
  rw [methodCalls, methodCalls, methodPattern_folded hc hc' hnames hnames'
    (fun name => (hsame name).1) (fun name => (hsame name).2)]

/-- One name begins another, and the lists differ in order, number and case. -/
theorem methodCalls_folded_api :
    let clients := ["api".toList, "apiContext".toList]
    let clients' := ["APIcontext".toList, "api".toList, "apiContext".toList, "Api".toList]
    let t := "apiContext.get('/a'); api .post('/b')".toList
    Named clients ∧ Named clients' ∧ [] ∉ clients ∧ [] ∉ clients' ∧
      (∀ name, name ∈ folded clients ↔ name ∈ folded clients') ∧
      methodCalls t clients = methodCalls t clients' ∧
      (methodCalls t clients').map (fun call => (call.offset, call.method)) =
        [(0, .get), (22, .post)] := by
  intro clients clients' t
  have hc : Named clients := by
    unfold Named
    decide
  have hc' : Named clients' := by
    unfold Named
    decide
  have hsame : ∀ name, name ∈ folded clients ↔ name ∈ folded clients' := by
    have hlist : folded clients ⊆ folded clients' := by decide
    have hlist' : folded clients' ⊆ folded clients := by decide
    exact fun name => ⟨fun h => hlist h, fun h => hlist' h⟩
  refine ⟨hc, hc', by decide, by decide, hsame, ?_, by decide +kernel⟩
  exact methodCalls_folded hc hc' (by decide) (by decide) hsame t

end Call
end EndpointManifest
