import EndpointManifest.Proofs.Call.Local
import EndpointManifest.Proofs.Spec

/-! What an endpoint takes from its source. Everything but the name is read from the call and the
window after it, so two sources that agree there have the same endpoint under their own names. -/

namespace EndpointManifest

open Text

namespace Call

/-- A slice from a call to the end of the window after it: the call, then what its assertions are
read from. -/
theorem Located.slice {t head inside after : Text} {call : Call}
    (h : Located t call head (inside ++ ')' :: after)) (window : Nat) :
    (t.drop call.offset).take
        (call.offset + head.length + 1 + inside.length + 1 + window - call.offset) =
      head ++ '(' :: (inside ++ ')' :: after.take window) := by
  have hlength : call.offset + head.length + 1 + inside.length + 1 + window - call.offset =
      head.length + (1 + (inside.length + (1 + window))) := by omega
  rw [h.split, hlength, List.take_length_add_append, Nat.add_comm 1 (inside.length + _),
    List.take_succ_cons, List.take_length_add_append, Nat.add_comm 1, List.take_succ_cons]

theorem Located.window {t head inside after : Text} {call : Call}
    (h : Located t call head (inside ++ ')' :: after)) :
    t.drop (call.offset + head.length + 1 + inside.length + 1) = after := by
  have hlength : call.offset + head.length + 1 + inside.length + 1 =
      call.offset + (head.length + 1 + inside.length + 1) := by omega
  rw [hlength, ← List.drop_drop, h.split, drop_arguments]

/-- The URL stands before the first closing parenthesis, so it is part of the arguments whatever
follows them. -/
theorem literal_of_inside {inside after url rest : Text} (hurl : ')' ∉ url)
    (h : plainLiteral? (skipBlanks (inside ++ ')' :: after)) = some (url, rest)) (v : Text) :
    ∃ rest', plainLiteral? (skipBlanks (inside ++ ')' :: v)) = some (url, rest') := by
  obtain ⟨q, hq, hne, hquote, hliteral⟩ := plainLiteral?_eq_some.1 h
  obtain ⟨bl, hbl, hsplit⟩ := skipBlanks_split (inside ++ ')' :: after)
  have hclose : ')' ∉ bl ++ (q :: url ++ [q]) := by
    have hq' : ')' ≠ q := by
      rintro rfl
      exact absurd hq (by decide)
    simp only [List.cons_append, List.mem_append, List.mem_cons, List.not_mem_nil, or_false, not_or]
    exact ⟨not_mem_blanks hbl (by decide), hq', hurl, hq'⟩
  have heq : inside ++ ')' :: after = (bl ++ (q :: url ++ [q])) ++ rest := by
    rw [hsplit, hliteral]
    simp
  obtain ⟨z, rfl⟩ : ∃ z, inside = (bl ++ (q :: url ++ [q])) ++ z := by
    rcases List.append_eq_append_iff.1 heq with ⟨w, hw, hrest⟩ | ⟨w, hw, _⟩
    · cases w with
      | nil => exact ⟨[], by rw [hw]; simp⟩
      | cons c w =>
        obtain ⟨rfl, _⟩ := List.cons.inj hrest
        exact absurd (by rw [hw]; simp) hclose
    · exact ⟨w, hw⟩
  refine ⟨z ++ ')' :: v, plainLiteral?_eq_some.2 ⟨q, hq, hne, hquote, ?_⟩⟩
  rw [List.append_assoc, List.append_assoc, skipBlanks_append hbl, List.append_assoc,
    List.cons_append, skipBlanks_cons (isBlank_quote hq)]
  simp

/-- Two calls with the same slice have everything in common but their places. -/
theorem Located.same {t t' head head' body body' : Text} {call call' : Call} {close close' : Nat}
    (h : Located t call head body) (h' : Located t' call' head' body')
    (hclose : call.closeIndex = some close) (hclose' : call'.closeIndex = some close')
    (hurl : ')' ∉ call.url) (window : Nat)
    (hslice : (t.drop call.offset).take (close + 1 + window - call.offset) =
      (t'.drop call'.offset).take (close' + 1 + window - call'.offset)) :
    call.method = call'.method ∧ call.url = call'.url ∧ call.options = call'.options ∧
      (t.drop (close + 1)).take window = (t'.drop (close' + 1)).take window := by
  obtain ⟨inside, after, rfl, rfl, hoptions, hbalanced⟩ := h.closed hclose
  obtain ⟨inside', after', rfl, rfl, hoptions', hbalanced'⟩ := h'.closed hclose'
  rw [h.slice, h'.slice] at hslice
  obtain ⟨rfl, hbody⟩ := split_unique h.no_paren h'.no_paren hslice
  have hlength : inside.length = inside'.length := by
    have hsame := Delimiter.blockEnd?_closed rfl hbalanced (after.take window)
    rw [hbody, Delimiter.blockEnd?_closed rfl hbalanced'] at hsame
    exact (Nat.succ.inj (Option.some.inj hsame)).symm
  obtain ⟨rfl, hafter⟩ := List.append_inj hbody hlength
  have hsame : call.options = call'.options := hoptions.trans hoptions'.symm
  have hmethod : call.method = call'.method := by
    have hhead' := h'.head
    rw [← hsame] at hhead'
    exact h.head.unique hhead'
  have hsameUrl : call.url = call'.url := by
    obtain ⟨rest, hliteral⟩ := h.literal
    obtain ⟨rest', hliteral'⟩ := h'.literal
    obtain ⟨rest'', hinside⟩ := literal_of_inside hurl hliteral after'
    rw [hliteral'] at hinside
    exact (Prod.mk.inj (Option.some.inj hinside)).1.symm
  refine ⟨hmethod, hsameUrl, hsame, ?_⟩
  rw [h.window, h'.window]
  exact (List.cons.inj hafter).2

end Call

namespace Spec

open Url (UrlError)

def unnamed (source : Text) (window : Nat) (call : Call) : Endpoint where
  name := []
  method := call.method
  url := call.url
  headers := headersFor call.method (Options.fields call.options).contentType
  auth := if (Options.fields call.options).bearer then some .bearer else none
  expectation := expectationFor source call window
  body := (Options.fields call.options).body

theorem endpointFor_eq (source : Text) (labels : LabelIndex) (window : Nat) (call : Call) :
    endpointFor source labels window call =
      (nameFor call.method.name call.url (labels.nearest? call.offset)).map fun name =>
        { unnamed source window call with name } := by
  unfold endpointFor
  cases nameFor call.method.name call.url (labels.nearest? call.offset) <;> rfl

/-- Two closed calls, in whatever sources, that agree from the call to the end of the window have
the same endpoint but for the name: there is one endpoint that both give under the name that each
has, and neither fails but for want of a name. -/
theorem endpointFor_local {clients : List Text} (hclients : Call.Named clients)
    {s s' : Text} {c c' : Call} {close close' : Nat} (hc : c ∈ Call.findCalls s clients)
    (hc' : c' ∈ Call.findCalls s' clients) (hclose : c.closeIndex = some close)
    (hclose' : c'.closeIndex = some close') (hurl : ')' ∉ c.url) {window : Nat}
    (hslice : (s.drop c.offset).take (close + 1 + window - c.offset) =
      (s'.drop c'.offset).take (close' + 1 + window - c'.offset)) :
    ∃ e : Endpoint, ∀ labels : LabelIndex,
      endpointFor s labels window c =
          (nameFor e.method.name e.url (labels.nearest? c.offset)).map ({ e with name := · }) ∧
        endpointFor s' labels window c' =
          (nameFor e.method.name e.url (labels.nearest? c'.offset)).map ({ e with name := · }) := by
  obtain ⟨head, body, h⟩ := Call.located_of_findCalls hclients hc
  obtain ⟨head', body', h'⟩ := Call.located_of_findCalls hclients hc'
  obtain ⟨hmethod, hsameUrl, hoptions, hwindow⟩ := h.same h' hclose hclose' hurl window hslice
  have hsame : unnamed s window c = unnamed s' window c' := by
    simp only [unnamed, expectationFor, hmethod, hsameUrl, hoptions, hclose, hclose', hwindow]
  refine ⟨unnamed s window c, fun labels => ⟨endpointFor_eq s labels window c, ?_⟩⟩
  rw [hsame]
  exact endpointFor_eq s' labels window c'

/-- An assertion before a call, and one that the window cuts off. -/
theorem endpointFor_local_cutOff :
    let s := "expect(r.status()).toBe(404); request.put('/a', {auth})\nexpect(r.ok())".toList
    let s' := "x; request.put('/a', {auth})\nexpect(r.status()).toBe(201)".toList
    let c : Call := ⟨30, .put, "/a".toList, 41, some 54, "{auth}".toList⟩
    let c' : Call := ⟨3, .put, "/a".toList, 14, some 27, "{auth}".toList⟩
    c ∈ Call.findCalls s ["request".toList] ∧ c' ∈ Call.findCalls s' ["request".toList] ∧
      ∃ e : Endpoint, ∀ labels : LabelIndex,
        endpointFor s labels 7 c =
            (nameFor e.method.name e.url (labels.nearest? 30)).map ({ e with name := · }) ∧
          endpointFor s' labels 7 c' =
            (nameFor e.method.name e.url (labels.nearest? 3)).map ({ e with name := · }) := by
  intro s s' c c'
  have hclients : Call.Named ["request".toList] := by unfold Call.Named; decide
  have hc : c ∈ Call.findCalls s ["request".toList] := by decide +kernel
  have hc' : c' ∈ Call.findCalls s' ["request".toList] := by decide +kernel
  exact ⟨hc, hc', endpointFor_local hclients hc hc' rfl rfl (by decide) (by decide +kernel)⟩

end Spec
end EndpointManifest
