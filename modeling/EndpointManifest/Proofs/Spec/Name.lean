import EndpointManifest.Proofs.Spec
import EndpointManifest.Proofs.Url.Parts

/-! The name of a call. A title is taken as it is; without one the last segment of an absolute URL
names the call, and neither a query, a fragment nor a slash at the end shows in it. -/

namespace EndpointManifest

open Text

namespace Spec

def segments (path : Text) : List Text := (splitOn '/' path).filter (!·.isEmpty)

variable {method url segment : Text} {p : Url.Parts}

theorem nameFor_absolute (h : Url.parts url = .ok p) (hscheme : p.scheme ≠ [])
    (hauthority : p.authority ≠ []) (hlast : (segments p.path).getLast? = some segment)
    (method : Text) : nameFor method url none = .ok (method ++ ' ' :: segment) := by
  have hsegment : lastSegment? url = .ok (some segment) := by
    rw [← hlast, lastSegment?, bind_eq_ok]
    refine ⟨p, h, ?_⟩
    simp [pure, Except.pure, hscheme, hauthority, segments]
  change (lastSegment? url >>= fun last => pure (method ++ ' ' :: last.getD url)) = _
  exact bind_eq_ok.2 ⟨_, hsegment, rfl⟩

theorem segments_append_slashes (path : Text) (n : Nat) :
    segments (path ++ List.replicate n '/') = segments path := by
  have hsplit : ∀ u v, segments (u ++ '/' :: v) = segments u ++ segments v := by
    intro u v
    rw [segments, splitOn, splitWhere_append_cons (by simp), List.filter_append]
    rfl
  have hslashes : ∀ n, segments (List.replicate n '/') = [] := by
    intro n
    induction n with
    | zero => rfl
    | succ n ih => rw [List.replicate_succ, ← List.nil_append ('/' :: _), hsplit, ih]; rfl
  cases n with
  | zero => simp
  | succ n => rw [List.replicate_succ, hsplit, hslashes, List.append_nil]

theorem of_mem_segments {path : Text} (h : segment ∈ segments path) :
    segment ≠ [] ∧ '/' ∉ segment ∧ segment ⊆ path := by
  obtain ⟨hmem, hne⟩ := List.mem_filter.1 h
  refine ⟨by simpa using hne, fun hslash => ?_, fun c hc => ?_⟩
  · simpa using not_of_mem_splitWhere hmem '/' hslash
  · have := List.mem_flatten_of_mem hmem hc
    rw [splitOn, flatten_splitWhere] at this
    exact List.mem_of_mem_filter this

/-- A title that is not empty is the name, whatever the URL. Without a title, an absolute URL
without query and fragment whose path has a segment that is not empty gives the method and the last
such segment. So it does with a query or a fragment behind it, and, unless it has a semicolon, with
any number of slashes. -/
theorem nameFor_fallback :
    (∀ method url title, title ≠ [] → nameFor method url (some title) = .ok title) ∧
    ∀ url p, Url.parts url = .ok p → p.scheme ≠ [] → p.authority ≠ [] → segments p.path ≠ [] →
      '?' ∉ url → '#' ∉ url →
      ∃ segment, (segments p.path).getLast? = some segment ∧ segment ≠ [] ∧
        (∀ c ∈ segment, c ≠ '/' ∧ c ≠ '?' ∧ c ≠ '#') ∧
        ∀ method, nameFor method url none = .ok (method ++ ' ' :: segment) ∧
          (∀ q, nameFor method (url ++ '?' :: q) none = .ok (method ++ ' ' :: segment)) ∧
          (∀ q, nameFor method (url ++ '#' :: q) none = .ok (method ++ ' ' :: segment)) ∧
          (';' ∉ url → ∀ n, nameFor method (url ++ List.replicate n '/') none =
            .ok (method ++ ' ' :: segment)) := by
  refine ⟨fun method url title => nameFor_title, ?_⟩
  intro url p hparts hscheme hauthority hsegments hquery hfragment
  obtain ⟨tail, htail, hpath, hbehind⟩ := Url.exists_tail hparts hscheme hauthority
  have hquery' : '?' ∉ tail := fun h => hquery (htail h)
  have hfragment' : '#' ∉ tail := fun h => hfragment (htail h)
  obtain ⟨segment, hlast⟩ : ∃ segment, (segments p.path).getLast? = some segment :=
    ⟨_, List.getLast?_eq_some_getLast hsegments⟩
  obtain ⟨hne, hslash, hsubset⟩ := of_mem_segments (List.mem_of_getLast? hlast)
  have hinside : segment ⊆ tail := by
    rw [hpath] at hsubset
    exact List.Subset.trans hsubset (Url.pathFrom_subset _ _)
  refine ⟨segment, hlast, hne, fun c hc => ⟨?_, ?_, ?_⟩,
    fun method => ⟨?_, fun q => ?_, fun q => ?_, fun hparameters n => ?_⟩⟩
  · rintro rfl
    exact hslash hc
  · rintro rfl
    exact hquery' (hinside hc)
  · rintro rfl
    exact hfragment' (hinside hc)
  · exact nameFor_absolute hparts hscheme hauthority hlast method
  · refine nameFor_absolute (hbehind '?' q rfl) hscheme hauthority ?_ method
    rw [Url.pathFrom_append_mark (.inl rfl) hquery' hfragment', ← hpath, hlast]
  · refine nameFor_absolute (hbehind '#' q rfl) hscheme hauthority ?_ method
    rw [Url.pathFrom_append_mark (.inr rfl) hquery' hfragment', ← hpath, hlast]
  · cases n with
    | zero =>
      rw [List.replicate_zero, List.append_nil]
      exact nameFor_absolute hparts hscheme hauthority hlast method
    | succ n =>
      have hkept : (List.replicate n '/').filter Url.isKept = List.replicate n '/' := by
        simp [Url.isKept]
      have hslashes := hbehind '/' (List.replicate n '/') rfl
      rw [hkept, ← List.replicate_succ] at hslashes
      have hparameters' : ';' ∉ tail := fun h => hparameters (htail h)
      refine nameFor_absolute hslashes hscheme hauthority ?_ method
      rw [Url.pathFrom_of_not_mem (by simp [hquery']) (by simp [hfragment'])
          (by simp [hparameters']),
        segments_append_slashes, ← hlast, hpath,
        Url.pathFrom_of_not_mem hquery' hfragment' hparameters']

/-- A query with slashes and a bracket, a fragment, and slashes behind a URL; and a text that is no
URL under a title. -/
theorem nameFor_fallback_users :
    let url := "https://api.example.com/v1/users".toList
    (∃ p, Url.parts url = .ok p ∧ p.scheme ≠ [] ∧ p.authority ≠ [] ∧ segments p.path ≠ []) ∧
      '?' ∉ url ∧ '#' ∉ url ∧ ';' ∉ url ∧
      nameFor "GET".toList url none = .ok "GET users".toList ∧
      nameFor "GET".toList (url ++ "?next=//[::1/a#b".toList) none = .ok "GET users".toList ∧
      nameFor "GET".toList (url ++ "#a/b?c".toList) none = .ok "GET users".toList ∧
      nameFor "GET".toList (url ++ "//".toList) none = .ok "GET users".toList ∧
      Url.parts "//[".toList = .error .brackets ∧
      nameFor "GET".toList "//[".toList (some "List users".toList) =
        .ok "List users".toList := by
  intro url
  have hparts : Url.parts url =
      .ok ⟨"https".toList, "api.example.com".toList, "/v1/users".toList⟩ := by rfl
  have hsemicolon : ';' ∉ url := by decide
  obtain ⟨segment, hlast, _, _, hname⟩ := nameFor_fallback.2 url _ hparts (by decide) (by decide)
    (by decide) (by decide) (by decide)
  obtain rfl : segment = "users".toList := by
    have hsegments : (segments "/v1/users".toList).getLast? = some "users".toList := by rfl
    exact Option.some.inj (hlast.symm.trans hsegments)
  obtain ⟨hplain, hquery, hfragment, hslashes⟩ := hname "GET".toList
  exact ⟨⟨_, hparts, by decide, by decide, by decide⟩, by decide, by decide, hsemicolon, hplain,
    hquery "next=//[::1/a#b".toList, hfragment "a/b?c".toList, hslashes hsemicolon 2, by rfl,
    nameFor_fallback.1 _ _ _ (by decide)⟩

end Spec
end EndpointManifest
