import EndpointManifest.Proofs.Except
import EndpointManifest.Proofs.Label
import EndpointManifest.Spec

/-! Reading a source goes through iff every call gives an endpoint, and then there is one endpoint
for each call, in the order of the calls. -/

namespace EndpointManifest

open Text

theorem exists_forall₂ {α β : Type} {r : α → β → Prop} {l : List α} :
    (∃ l', List.Forall₂ r l l') ↔ ∀ a ∈ l, ∃ b, r a b := by
  induction l with
  | nil => simp
  | cons a l ih =>
    simp only [List.forall₂_cons_left_iff, List.mem_cons, forall_eq_or_imp, ← ih]
    constructor
    · rintro ⟨_, b, l', hb, hl, rfl⟩
      exact ⟨⟨b, hb⟩, l', hl⟩
    · rintro ⟨⟨b, hb⟩, l', hl⟩
      exact ⟨_, b, l', hb, hl, rfl⟩

theorem forall₂_mem {α β : Type} {r : α → β → Prop} {l : List α} {l' : List β}
    (h : List.Forall₂ r l l') :
    List.Forall₂ (fun a b => a ∈ l ∧ r a b) l l' ∧ ∀ b ∈ l', ∃ a ∈ l, r a b := by
  induction h with
  | nil => simp
  | cons hab _ ih =>
    obtain ⟨hl, hmem⟩ := ih
    refine ⟨.cons ⟨by simp, hab⟩ (hl.imp fun _ _ h => ⟨by simp [h.1], h.2⟩), ?_⟩
    rintro b (_ | ⟨_, hb⟩)
    · exact ⟨_, by simp, hab⟩
    · obtain ⟨a, ha, hr⟩ := hmem b hb
      exact ⟨a, by simp [ha], hr⟩

deriving instance DecidableEq for Spec

namespace Spec

open Url (UrlError)

variable {reading : Reading} {source : Text} {spec : Spec}

theorem ofSource_eq_ok : ofSource reading source = .ok spec ↔
    spec.path = [] ∧ spec.group = (LabelIndex.ofSource source).outermost? ∧
      List.Forall₂ (fun call e =>
          endpointFor source (LabelIndex.ofSource source) reading.window call = .ok e)
        (Call.findCalls source reading.clients) spec.endpoints := by
  simp only [ofSource, bind_eq_ok, mapM_eq_ok, pure, Except.pure, Except.ok.injEq]
  constructor
  · rintro ⟨endpoints, h, rfl⟩
    exact ⟨rfl, rfl, h⟩
  · rintro ⟨hpath, hgroup, h⟩
    refine ⟨spec.endpoints, h, ?_⟩
    cases spec
    simp_all

theorem endpointFor_eq_ok {labels : LabelIndex} {window : Nat} {call : Call} {e : Endpoint} :
    endpointFor source labels window call = .ok e ↔
      ∃ name, nameFor call.method.name call.url (labels.nearest? call.offset) = .ok name ∧
        e = { name, method := call.method, url := call.url,
              headers := headersFor call.method (Options.fields call.options).contentType,
              auth := if (Options.fields call.options).bearer then some .bearer else none,
              expectation := expectationFor source call window,
              body := (Options.fields call.options).body } := by
  simp only [endpointFor, bind_eq_ok, pure, Except.pure, Except.ok.injEq, eq_comm (b := e)]

theorem nameFor_title {method url title : Text} (h : title ≠ []) :
    nameFor method url (some title) = .ok title := by
  cases title with
  | nil => exact absurd rfl h
  | cons c title => rfl

/-- Without a title the name is made from the URL, which has to be one. -/
theorem exists_nameFor_none {method url : Text} :
    (∃ name, nameFor method url none = .ok name) ↔ ∃ parts, Url.parts url = .ok parts := by
  simp only [nameFor, lastSegment?, bind_eq_ok, pure, Except.pure, Except.ok.injEq]
  constructor
  · rintro ⟨_, _, ⟨parts, hparts, _⟩, _⟩
    exact ⟨parts, hparts⟩
  · rintro ⟨parts, hparts⟩
    exact ⟨_, _, ⟨parts, hparts, rfl⟩, rfl⟩

theorem nameFor_ne_nil {method url name : Text} {title : Option Text}
    (h : nameFor method url title = .ok name) : name ≠ [] := by
  simp only [nameFor] at h
  split at h
  · obtain rfl := Except.ok.inj h
    simp
  · obtain ⟨_, _, h⟩ := bind_eq_ok.1 h
    obtain rfl := Except.ok.inj h
    simp

end Spec
end EndpointManifest
