import EndpointManifest.Proofs.Call.Bound
import EndpointManifest.Proofs.Script.Runs

/-! The calls of a script: one for each test, bounded at the end of its request, and nearest to the
title of the test it stands in. -/

namespace EndpointManifest.Script

open Text Call

namespace Test

def inOptions (e : Test) : Text := ' ' :: (e.headersEntry ++ (dataKey ++ (e.body ++ [' '])))

theorem options_eq (e : Test) : e.options = '{' :: (e.inOptions ++ ['}']) := by
  simp [options, inOptions]

theorem balanced_fixed {c : Text} (h : ∀ d ∈ c, d ≠ '{' ∧ d ≠ '}') :
    Delimiter.Balanced '{' '}' c := by
  apply Delimiter.balanced_of_not_mem
  · intro hmem
    exact (h _ hmem).1 rfl
  · intro hmem
    exact (h _ hmem).2 rfl

theorem braceless_members (e : Test) : Braceless (join [',', ' '] e.members) := by
  have hfixed : (∀ d ∈ contentTypeKey, d ≠ '{' ∧ d ≠ '}') ∧ (∀ d ∈ tokenKey, d ≠ '{' ∧ d ≠ '}') := by
    decide
  have hmarks : ∀ d ∈ [',', ' ', '\''], d ≠ '{' ∧ d ≠ '}' := by decide
  intro d hd
  rcases mem_join hd with hd | ⟨m, hm, hd⟩
  · exact hmarks d (by simp only [List.mem_cons] at hd ⊢; tauto)
  · rcases mem_members hm with ⟨c, hc, rfl⟩ | ⟨k, hk, rfl⟩
    · simp only [List.mem_append] at hd
      rcases hd with hd | hd | hd
      · exact hfixed.1 d hd
      · exact (e.plain_contentType c hc).2.1 d hd
      · exact hmarks d (List.mem_cons_of_mem _ (List.mem_cons_of_mem _ hd))
    · simp only [List.mem_append] at hd
      rcases hd with hd | hd | hd
      · exact hfixed.2 d hd
      · exact (e.plain_token k hk).2 d hd
      · exact hmarks d (List.mem_cons_of_mem _ (List.mem_cons_of_mem _ hd))

theorem balanced_inHeaders (e : Test) :
    Delimiter.Balanced '{' '}' (' ' :: (join [',', ' '] e.members ++ [' '])) := by
  apply balanced_fixed
  intro d hd
  simp only [List.mem_cons, List.mem_append, List.not_mem_nil, or_false] at hd
  rcases hd with rfl | hd | rfl
  · decide
  · exact e.braceless_members d hd
  · decide

theorem balanced_inOptions (e : Test) : Delimiter.Balanced '{' '}' e.inOptions := by
  have hspace : Delimiter.Balanced '{' '}' [' '] := balanced_fixed (by decide)
  have hheaders : Delimiter.Balanced '{' '}' e.headersEntry := by
    unfold headersEntry
    split
    · exact balanced_fixed (by simp)
    · have hblock := e.balanced_inHeaders.block (by decide)
      have hcomma : Delimiter.Balanced '{' '}' [',', ' '] := balanced_fixed (by decide)
      have hkey : Delimiter.Balanced '{' '}' headersKey := balanced_fixed (by decide)
      simpa [headersBlock] using hkey.append (hblock.append hcomma)
  have hkey : Delimiter.Balanced '{' '}' dataKey := balanced_fixed (by decide)
  have hbody : Delimiter.Balanced '{' '}' e.body := e.plain_payload.2.block (by decide)
  exact hspace.append (hheaders.append (hkey.append (hbody.append hspace)))

theorem balanced_arguments (e : Test) : Delimiter.Balanced '(' ')' e.arguments := by
  have hmarks : ('(' ≠ '\'' ∧ '(' ≠ ',' ∧ '(' ≠ ' ') ∧ ')' ≠ '\'' ∧ ')' ≠ ',' ∧ ')' ≠ ' ' := by
    decide
  apply Delimiter.balanced_of_not_mem
  · simp [arguments, hmarks, e.plain_url.1.not_mem (.inl rfl), not_mem_options (e := e) (.inl rfl)]
  · simp [arguments, hmarks, e.plain_url.1.not_mem (.inr rfl), not_mem_options (e := e) (.inr rfl)]

theorem optionsOf_arguments (e : Test) : optionsOf e.arguments = e.options := by
  have hurl : '\'' ∉ e.url := by
    intro hmem
    have := (e.plain_url.1 _ hmem).1
    revert this
    decide
  have hblank : AllBlank [' '] := by decide
  have := optionsOf_eq (q := '\'') (by decide) e.plain_url.2 hurl hblank e.balanced_inOptions []
  rw [arguments, options_eq]
  exact this

def call (n : Nat) (e : Test) : Call where
  offset := n + e.requestStart
  method := e.method
  url := e.url
  openIndex := n + e.requestStart + e.requestWord.length
  closeIndex := some (n + e.requestStart + e.requestWord.length + 1 + e.arguments.length)
  options := e.options

theorem bound_render (e : Test) (u v : Text) :
    bound (u ++ (e.render ++ v)) (u.length + e.requestStart) =
      ((e.call u.length).openIndex, (e.call u.length).closeIndex, e.options) := by
  have hbound := bound_eq (u := u ++ e.beforeRequest) e.not_mem_requestWord e.balanced_arguments
    (e.afterRequest ++ v)
  rw [e.optionsOf_arguments, List.length_append] at hbound
  have hrender : u ++ (e.render ++ v) = (u ++ e.beforeRequest) ++
      (e.requestWord ++ '(' :: (e.arguments ++ ')' :: (e.afterRequest ++ v))) := by
    rw [render_eq_request]
    simp
  rw [hrender]
  exact hbound

theorem titleStart_le (e : Test) :
    e.titleStart ≤ e.requestStart ∧ e.requestStart < e.render.length := by
  constructor
  · simp [titleStart, requestStart, beforeRequest]
  · simp only [requestStart, render_eq_request, List.length_append, List.length_cons]
    omega

end Test

theorem exists_render_eq {s : Script} {n : Nat} {e : Test}
    (h : (n, e) ∈ placed s.opening.length s.tests) :
    ∃ u v, s.render = u ++ (e.render ++ v) ∧ n = u.length := by
  obtain ⟨u, v, hsplit, hn⟩ := split_of_mem_placed h
  refine ⟨s.opening ++ u, v ++ s.footer, ?_, ?_⟩
  · rw [render_eq, hsplit]
    simp
  · rw [hn, List.length_append]

theorem methodCalls_render (s : Script) : methodCalls s.render receivers =
    (placed s.opening.length s.tests).map fun x => x.2.call x.1 := by
  rw [methodCalls, findAll_methodPattern, List.map_map]
  apply List.map_congr_left
  rintro ⟨n, e⟩ hmem
  obtain ⟨u, v, hrender, rfl⟩ := exists_render_eq hmem
  simp only [Function.comp_apply, hrender, e.bound_render]
  rfl

theorem findCalls_render (s : Script) : findCalls s.render receivers =
    (placed s.opening.length s.tests).map fun x => x.2.call x.1 := by
  have hfetch : fetchCalls s.render = [] := by
    rw [fetchCalls, findAll_fetchPattern, List.filterMap_nil]
  rw [findCalls, hfetch, List.append_nil, methodCalls_render]
  apply List.mergeSort_of_pairwise
  rw [List.pairwise_map]
  apply (placed_pairwise _ _).imp
  intro x y hxy
  have hx := x.2.titleStart_le
  apply decide_eq_true
  show x.1 + x.2.requestStart ≤ y.1 + y.2.requestStart
  omega

theorem outermost?_render (s : Script) :
    (LabelIndex.ofSource s.render).outermost? = some s.group := by
  simp [LabelIndex.outermost?, LabelIndex.ofSource, findAll_groupPattern, Label.ofFound]

theorem nearest?_render {s : Script} {n : Nat} {e : Test}
    (h : (n, e) ∈ placed s.opening.length s.tests) :
    (LabelIndex.ofSource s.render).nearest? (e.call n).offset = some e.title := by
  let label (x : Nat × Test) : Label := ⟨(x.1 + x.2.titleStart : Nat), x.2.title⟩
  have htitles : (LabelIndex.ofSource s.render).titles =
      (placed s.opening.length s.tests).map label := by
    rw [LabelIndex.ofSource, findAll_testPattern, List.map_map]
    rfl
  obtain ⟨before, after, hplaced⟩ := List.append_of_mem h
  have hordered := placed_pairwise s.opening.length s.tests
  rw [hplaced, List.pairwise_append, List.pairwise_cons] at hordered
  obtain ⟨_, ⟨hafter, _⟩, hbefore⟩ := hordered
  have hsplit : (LabelIndex.ofSource s.render).titles =
      (before ++ [(n, e)]).map label ++ after.map label := by
    rw [htitles, hplaced]
    simp
  have hfront : ∀ l ∈ (before ++ [(n, e)]).map label, l.offset ≤ (e.call n).offset := by
    intro l hl
    obtain ⟨x, hx, rfl⟩ := List.mem_map.1 hl
    rcases List.mem_append.1 hx with hx | hx
    · have hle := hbefore x hx (n, e) (.head _)
      have hlt := x.2.titleStart_le
      simp only [label, Test.call] at hle ⊢
      omega
    · obtain rfl := List.mem_singleton.1 hx
      have hle := e.titleStart_le
      simp only [label, Test.call]
      omega
  have hback : ∀ l ∈ after.map label, ((e.call n).offset : Int) < l.offset := by
    intro l hl
    obtain ⟨x, hx, rfl⟩ := List.mem_map.1 hl
    have hle := hafter x hx
    have hlt := e.titleStart_le
    simp only [label, Test.call] at hle ⊢
    omega
  rw [LabelIndex.nearest?_eq hsplit hfront hback, List.map_append, List.map_singleton,
    List.getLast?_concat]
  rfl

end EndpointManifest.Script
