import EndpointManifest.Proofs.Call.Pattern
import EndpointManifest.Proofs.Recovered
import EndpointManifest.Proofs.Spec
import EndpointManifest.Settings.Basic

/-! The endpoints of a source are well formed, whatever the source: each comes from one call, and
each field holds what was recovered or nothing. -/

namespace EndpointManifest

open Text

/-- What holds of every endpoint that is read from a source. -/
structure Endpoint.WellFormed (e : Endpoint) : Prop where
  name : e.name ≠ []
  method : e.method.name ∈ ["GET", "POST", "PUT", "PATCH", "DELETE"].map String.toList
  url : e.url ≠ [] ∧ ∀ c ∈ e.url, isQuote c = false
  headers : e.headers = [] ∨ e.method ≠ .get ∧ ∃ v, e.headers = [("Content-Type".toList, v)] ∧
    v ≠ [] ∧ Trimmed v ∧ ∀ c ∈ v, isQuote c = false
  auth : e.auth = none ∨ e.auth = some .bearer
  body : ∀ b, e.body = some b → SingleSpaced b
  status : ∀ n, e.expectation.status = some n → 100 ≤ n ∧ n ≤ 599
  substring : ∀ s, e.expectation.substring = some s → s ≠ [] ∧ '\n' ∉ s

def Endpoint.IsBare (e : Endpoint) : Prop :=
  e.headers = [] ∧ e.auth = none ∧ e.body = none ∧ e.expectation = {}

namespace Call

/-- Where a call's method comes from. However it is written, its capitals are the method's name. -/
inductive MethodFrom (t : Text) (call : Call) : Prop where
  | verb (front gap word back : Text) (hgap : AllBlank gap)
      (hcall : t.drop call.offset = front ++ '.' :: (gap ++ (word ++ back)))
      (hword : upper word = call.method.name)
  | field (f : Found Text) (hfield : find? methodFieldPattern call.options = some f)
      (hword : upper f.value = call.method.name)
  | default (hfield : find? methodFieldPattern call.options = none) (hget : call.method = .get)

structure Sound (t : Text) (call : Call) : Prop where
  method : MethodFrom t call
  url : call.url ≠ [] ∧ ∀ c ∈ call.url, isQuote c = false
  unclosed : call.closeIndex = none → call.options = []

theorem options_of_unclosed {t : Text} {offset : Nat} (h : (bound t offset).2.1 = none) :
    (bound t offset).2.2 = [] := by
  simp only [bound] at h ⊢
  rw [h]

theorem url_of_urlArgument? {t url rest : Text} (h : urlArgument? t = some (url, rest)) :
    url ≠ [] ∧ ∀ c ∈ url, isQuote c = false := by
  obtain ⟨_, _, _, _, _, _, hne, hquote, _⟩ := urlArgument?_eq_some.1 h
  exact ⟨hne, hquote⟩

theorem sound_of_methodCalls {t : Text} {clients : List Text} {call : Call}
    (h : call ∈ methodCalls t clients) : Sound t call := by
  obtain ⟨f, hf, rfl⟩ := List.mem_map.1 h
  obtain ⟨u, v, after, rfl, hstart, hmatch⟩ := match_of_mem_findAll hf
  obtain ⟨_, object, t', _, rfl, hcall⟩ := methodPattern_some hmatch
  obtain ⟨bl, gap, word, t'', _, hgap, hword, rfl, harg⟩ := verbCall?_some hcall
  refine ⟨.verb (object ++ bl) gap word t'' hgap ?_ (upper_of_verb hword),
    url_of_urlArgument? harg, options_of_unclosed⟩
  rw [hstart, List.drop_left, List.append_assoc]

theorem ofName?_some {t : Text} {m : Method} (h : Method.ofName? t = some m) : t = m.name := by
  simpa [eq_comm] using List.find?_some h

theorem sound_of_fetchCalls {t : Text} {call : Call} (h : call ∈ fetchCalls t) : Sound t call := by
  obtain ⟨f, hf, hcall⟩ := List.mem_filterMap.1 h
  obtain ⟨m, hm, rfl⟩ := Option.map_eq_some_iff.1 hcall
  obtain ⟨u, v, after, rfl, hstart, hmatch⟩ := match_of_mem_findAll hf
  obtain ⟨_, object, t', _, _, hfetch⟩ := fetchPattern_some hmatch
  obtain ⟨word, t'', _, _, harg⟩ := fetchCall?_some hfetch
  refine ⟨?_, url_of_urlArgument? harg, options_of_unclosed⟩
  simp only [fetchMethod?] at hm
  split at hm
  · next field hfield => exact .field field hfield (ofName?_some hm)
  · next hfield => exact .default hfield (Option.some.inj hm).symm

theorem sound_of_findCalls {t : Text} {clients : List Text} {call : Call}
    (h : call ∈ findCalls t clients) : Sound t call := by
  rw [findCalls, List.mem_mergeSort, List.mem_append] at h
  exact h.elim sound_of_methodCalls sound_of_fetchCalls

end Call

namespace Endpoint

theorem headersFor_eq {method : Method} {options : Text} :
    Spec.headersFor method (Options.fields options).contentType = [] ∨
      method ≠ .get ∧ ∃ v, Spec.headersFor method (Options.fields options).contentType =
          [("Content-Type".toList, v)] ∧ v ≠ [] ∧ Trimmed v ∧ ∀ c ∈ v, isQuote c = false := by
  cases hct : (Options.fields options).contentType with
  | none => exact .inl rfl
  | some v =>
    obtain ⟨htrim, hquote⟩ := Options.contentType_unquoted hct
    cases v with
    | nil => exact .inl rfl
    | cons c v =>
      by_cases hm : method = .get
      · exact .inl (if_pos hm)
      · exact .inr ⟨hm, c :: v, if_neg hm, by simp, htrim, hquote⟩

theorem wellFormed_of_endpointFor {source : Text} {labels : LabelIndex} {window : Nat}
    {call : Call} {e : Endpoint} {clients : List Text}
    (hcall : call ∈ Call.findCalls source clients)
    (h : Spec.endpointFor source labels window call = .ok e) : e.WellFormed := by
  obtain ⟨name, hname, rfl⟩ := Spec.endpointFor_eq_ok.1 h
  have hsound := Call.sound_of_findCalls hcall
  refine ⟨Spec.nameFor_ne_nil hname, ?_, hsound.url, headersFor_eq, ?_,
    fun b hb => Options.singleSpaced_body hb, ?_, ?_⟩
  · show call.method.name ∈ _
    cases call.method <;> decide
  · show (if (Options.fields call.options).bearer then some Auth.bearer else none) = none ∨ _
    split
    · exact .inr rfl
    · exact .inl rfl
  · intro n hn
    simp only [Spec.expectationFor] at hn
    split at hn
    · cases hn
    · exact Asserted.status_in_range hn
  · intro s hs
    simp only [Spec.expectationFor] at hs
    split at hs
    · cases hs
    · exact Asserted.substring_on_one_line hs

theorem isBare_of_unclosed {source : Text} {labels : LabelIndex} {window : Nat} {call : Call}
    {e : Endpoint} {clients : List Text} (hcall : call ∈ Call.findCalls source clients)
    (hclose : call.closeIndex = none) (h : Spec.endpointFor source labels window call = .ok e) :
    e.IsBare := by
  obtain ⟨name, _, rfl⟩ := Spec.endpointFor_eq_ok.1 h
  have hfields : Options.fields call.options = {} := by
    rw [(Call.sound_of_findCalls hcall).unclosed hclose, Options.fields_nil]
  refine ⟨?_, ?_, ?_, ?_⟩
  · simp [hfields, Spec.headersFor]
  · simp [hfields]
  · simp [hfields]
  · simp [Spec.expectationFor, hclose]

end Endpoint

namespace Spec

/-- Every endpoint of a source is well formed. They come from the calls, one from each and in their
order, with the method as the call writes it; from a call that is never closed comes nothing but the
name, the method and the URL. -/
theorem ofSource_wellFormed {settings : Settings} {source : Text} {spec : Spec}
    (h : ofSource settings.reading source = .ok spec) :
    (∀ e ∈ spec.endpoints, e.WellFormed) ∧
      List.Forall₂ (fun call e => call.MethodFrom source ∧ e.method = call.method ∧
          e.url = call.url ∧ (call.closeIndex = none → e.IsBare))
        (Call.findCalls source settings.receivers) spec.endpoints := by
  obtain ⟨_, _, hall⟩ := ofSource_eq_ok.1 h
  obtain ⟨hcalls, hmem⟩ := forall₂_mem hall
  constructor
  · intro e he
    obtain ⟨call, hcall, hfor⟩ := hmem e he
    exact Endpoint.wellFormed_of_endpointFor hcall hfor
  · refine hcalls.imp ?_
    rintro call e ⟨hcall, hfor⟩
    obtain ⟨name, _, he⟩ := endpointFor_eq_ok.1 hfor
    refine ⟨(Call.sound_of_findCalls hcall).method, by rw [he], by rw [he], fun hclose => ?_⟩
    exact Endpoint.isBare_of_unclosed hcall hclose hfor

/-- A verb with a long s is POST. -/
theorem ofSource_wellFormed_longS : ∃ spec : Spec,
    ofSource ({} : Settings).reading "request.poſt('/a', {body: 1})".toList = .ok spec ∧
      spec.endpoints.map (·.method) = [.post] ∧ ∀ e ∈ spec.endpoints, e.WellFormed := by
  have h : ofSource ({} : Settings).reading "request.poſt('/a', {body: 1})".toList =
      .ok { path := [], endpoints :=
        [{ name := "POST /a".toList, method := .post, url := "/a".toList, body := some ['1'] }] } := by
    decide +kernel
  exact ⟨_, h, rfl, (ofSource_wellFormed h).1⟩

end Spec
end EndpointManifest
