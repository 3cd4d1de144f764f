import EndpointManifest.Proofs.Except
import EndpointManifest.Proofs.Text.Words
import EndpointManifest.Url.Parts

/-! What is written behind a URL. A URL with a scheme and an authority keeps both, whatever follows
a separator; its path ends at the first question mark or hash. -/

namespace EndpointManifest

open Text

namespace Url

def isKept (c : Char) : Bool := c != '\t' && c != '\r' && c != '\n'

def isSeparator (c : Char) : Bool := c == '/' || c == '?' || c == '#'

def pathFrom (scheme tail : Text) : Text :=
  let path := tail.takeWhile fun c => c != '#' && c != '?'
  if schemesWithParameters.contains scheme then dropParameters path else path

variable {t url scheme authority rest tail : Text} {p : Parts}

theorem strip_append (h : strip t ≠ []) (v : Text) :
    strip (t ++ v) = strip t ++ v.filter isKept := by
  unfold strip at h ⊢
  rw [List.dropWhile_append, if_neg, List.filter_append]
  · rfl
  · intro hnil
    rw [List.isEmpty_iff.1 hnil] at h
    exact h rfl

theorem splitScheme_append (h : splitScheme t = (scheme, rest)) (hne : scheme ≠ []) (v : Text) :
    splitScheme (t ++ v) = (scheme, rest ++ v) := by
  have hnone : ∀ {u : Text}, ([], u) ≠ (scheme, rest) := fun heq => hne (Prod.mk.inj heq).1.symm
  rw [splitScheme] at h
  split at h
  · next c name d rest' hspan =>
    obtain ⟨ht, hname, hstop⟩ := span_eq_iff.1 hspan
    split at h
    · next hscheme =>
      obtain ⟨rfl, rfl⟩ := Prod.mk.inj h
      have hspan' : (t ++ v).span (· != ':') = (c :: name, d :: (rest' ++ v)) := by
        refine span_eq_iff.2 ⟨by rw [ht]; simp, hname, hstop⟩
      rw [splitScheme, hspan']
      simp only [hscheme, if_true]
    · exact absurd h hnone
  · exact absurd h hnone

theorem splitAuthority_append (h : splitAuthority t = (authority, rest)) (hne : authority ≠ [])
    {v : Text} (hv : ∀ c, v.head? = some c → isSeparator c = true) :
    splitAuthority (t ++ v) = (authority, rest ++ v) := by
  rw [splitAuthority.eq_def] at h
  split at h
  · next t =>
    obtain ⟨rfl, hauthority, hstop⟩ := span_eq_iff.1 h
    rw [List.cons_append, List.cons_append, splitAuthority]
    refine span_eq_iff.2 ⟨by simp, hauthority, fun c hc => ?_⟩
    cases rest with
    | nil =>
      have hsep := hv c hc
      simp only [isSeparator, Bool.or_eq_true, beq_iff_eq] at hsep
      rcases hsep with (rfl | rfl) | rfl <;> rfl
    | cons d rest => exact hstop c hc
  · exact absurd (Prod.mk.inj h).1.symm hne

theorem splitScheme_suffix (t : Text) : (splitScheme t).2 <:+ t := by
  rw [splitScheme]
  split
  · next c name d rest hspan =>
    obtain ⟨ht, _⟩ := span_eq_iff.1 hspan
    split
    · exact ⟨c :: name ++ [d], by rw [ht]; simp⟩
    · exact List.suffix_refl t
  · exact List.suffix_refl t

theorem splitAuthority_suffix (t : Text) : (splitAuthority t).2 <:+ t := by
  rw [splitAuthority.eq_def]
  split
  · next t =>
    rw [List.span_eq_takeWhile_dropWhile]
    exact (List.dropWhile_suffix _).trans ⟨['/', '/'], rfl⟩
  · exact List.suffix_refl _

theorem parts_eq_ok : parts url = .ok p ↔
    ∃ rest tail, splitScheme (strip url) = (p.scheme, rest) ∧
      splitAuthority rest = (p.authority, tail) ∧ checkBrackets p.authority = .ok () ∧
      checkSeparators p.authority = .ok () ∧ p.path = pathFrom p.scheme tail := by
  obtain ⟨scheme, authority, path⟩ := p
  simp only [parts, bind_eq_ok, pure, Except.pure, Except.ok.injEq, Parts.mk.injEq]
  constructor
  · rintro ⟨_, hbrackets, _, hseparators, rfl, rfl, rfl⟩
    exact ⟨_, _, rfl, rfl, hbrackets, hseparators, rfl⟩
  · rintro ⟨rest, tail, hscheme, hauthority, hbrackets, hseparators, rfl⟩
    rw [hscheme, hauthority]
    exact ⟨(), hbrackets, (), hseparators, rfl, rfl, rfl⟩

/-- What a URL with scheme and authority has behind them decides its path, and goes on with whatever
is written behind the URL from a separator on. -/
theorem exists_tail (h : parts url = .ok p) (hscheme : p.scheme ≠ [])
    (hauthority : p.authority ≠ []) :
    ∃ tail, tail ⊆ url ∧ p.path = pathFrom p.scheme tail ∧ ∀ c v, isSeparator c = true →
      parts (url ++ c :: v) =
        .ok { p with path := pathFrom p.scheme (tail ++ c :: v.filter isKept) } := by
  obtain ⟨rest, tail, hrest, htail, hbrackets, hseparators, hpath⟩ := parts_eq_ok.1 h
  have hsubset : tail ⊆ url := by
    have hsuffix : tail <:+ rest := by simpa [htail] using splitAuthority_suffix rest
    have hsuffix' : rest <:+ strip url := by simpa [hrest] using splitScheme_suffix (strip url)
    have hstrip : strip url ⊆ url :=
      (List.filter_sublist.trans (List.dropWhile_sublist _)).subset
    exact List.Subset.trans (hsuffix.trans hsuffix').subset hstrip
  refine ⟨tail, hsubset, hpath, fun c v hc => ?_⟩
  have hne : strip url ≠ [] := by
    intro hnil
    rw [hnil] at hrest
    exact hscheme (Prod.mk.inj hrest).1.symm
  have hkept : (c :: v).filter isKept = c :: v.filter isKept := by
    simp only [isSeparator, Bool.or_eq_true, beq_iff_eq] at hc
    rcases hc with (rfl | rfl) | rfl <;> rfl
  refine parts_eq_ok.2 ⟨rest ++ c :: v.filter isKept, tail ++ c :: v.filter isKept, ?_, ?_,
    hbrackets, hseparators, rfl⟩
  · rw [strip_append hne, hkept]
    exact splitScheme_append hrest hscheme _
  · refine splitAuthority_append htail hauthority ?_
    rintro d ⟨rfl⟩
    exact hc

theorem afterLast_suffix (sep : Char) (t : Text) : afterLast sep t <:+ t := by
  rw [afterLast, ← List.reverse_prefix, List.reverse_reverse]
  exact List.takeWhile_prefix _

theorem dropParameters_split (path : Text) : ∃ front last, path = front ++ last ∧
    dropParameters path = front ++ last.takeWhile (· != ';') := by
  obtain ⟨front, hfront⟩ := afterLast_suffix '/' path
  refine ⟨front, afterLast '/' path, hfront.symm, ?_⟩
  have htake : path.take (path.length - (afterLast '/' path).length) = front := by
    have hlength : path.length - (afterLast '/' path).length = front.length := by
      have := congrArg List.length hfront
      rw [List.length_append] at this
      omega
    rw [hlength, ← hfront, List.take_left]
  rw [dropParameters, htake]

theorem dropParameters_of_not_mem {path : Text} (h : ';' ∉ path) : dropParameters path = path := by
  obtain ⟨front, last, hpath, hdrop⟩ := dropParameters_split path
  have hlast : last.takeWhile (· != ';') = last := by
    refine List.takeWhile_eq_self_iff.2 fun c hc => bne_iff_ne.2 ?_
    rintro rfl
    exact h (by rw [hpath]; exact List.mem_append_right _ hc)
  rw [hdrop, hlast, ← hpath]

theorem dropParameters_subset (path : Text) : dropParameters path ⊆ path := by
  obtain ⟨front, last, hpath, hdrop⟩ := dropParameters_split path
  rw [hdrop, hpath]
  exact ((List.takeWhile_sublist _).append_left front).subset

theorem pathFrom_subset (scheme tail : Text) : pathFrom scheme tail ⊆ tail := by
  have hpath := (List.takeWhile_sublist (l := tail) fun c => c != '#' && c != '?').subset
  rw [pathFrom]
  split
  · exact List.Subset.trans (dropParameters_subset _) hpath
  · exact hpath

theorem inPath_of_not_mem (hquery : '?' ∉ tail) (hfragment : '#' ∉ tail) :
    ∀ c ∈ tail, (c != '#' && c != '?') = true := by
  intro c hc
  simp only [Bool.and_eq_true, bne_iff_ne, ne_eq]
  exact ⟨fun h => hfragment (h ▸ hc), fun h => hquery (h ▸ hc)⟩

/-- The path ends at the mark of a query or a fragment. -/
theorem pathFrom_append_mark {mark : Char} (hmark : mark = '?' ∨ mark = '#')
    (hquery : '?' ∉ tail) (hfragment : '#' ∉ tail) (scheme v : Text) :
    pathFrom scheme (tail ++ mark :: v) = pathFrom scheme tail := by
  have hall := inPath_of_not_mem hquery hfragment
  have hstop : (mark != '#' && mark != '?') = false := by
    rcases hmark with rfl | rfl <;> rfl
  simp only [pathFrom, List.takeWhile_append_of_pos hall, List.takeWhile_cons, hstop,
    List.takeWhile_eq_self_iff.2 hall]
  simp

theorem pathFrom_of_not_mem (hquery : '?' ∉ tail) (hfragment : '#' ∉ tail)
    (hparameters : ';' ∉ tail) (scheme : Text) : pathFrom scheme tail = tail := by
  have hall := inPath_of_not_mem hquery hfragment
  simp only [pathFrom, List.takeWhile_eq_self_iff.2 hall, dropParameters_of_not_mem hparameters,
    ite_self]

end Url
end EndpointManifest
