import EndpointManifest.Proofs.Assertion.Earliest
import EndpointManifest.Proofs.Locality

/-! A wider window. What is asserted in a window is asserted in every longer one. A longer window can
show an assertion that the end of the shorter one cut off, but none that begins before an assertion
about the status that was whole: that one would stand inside. -/

namespace EndpointManifest

open Text

namespace Asserted

open Assertion

variable {window more : Text} {start start' code code' : Nat}

theorem AssertsStatus.guarded (h : AssertsStatus window start code) :
    ∃ w, Guarded w ∧ w <+: window.drop start := by
  obtain ⟨_, _, ⟨w, hw, hprefix⟩ | ⟨_, w, hw, hprefix⟩⟩ := h
  · exact ⟨w, guarded_status w hw, hprefix⟩
  · exact ⟨w, guarded_ok w hw, hprefix⟩

theorem AssertsStatus.imp {window' : Text} (h : AssertsStatus window start code)
    (hword : ∀ w, Guarded w → w <+: window.drop start → w <+: window'.drop start') :
    AssertsStatus window' start' code := by
  obtain ⟨hlow, hhigh, ⟨w, hw, hprefix⟩ | ⟨hok, w, hw, hprefix⟩⟩ := h
  · exact ⟨hlow, hhigh, .inl ⟨w, hw, hword w (guarded_status w hw) hprefix⟩⟩
  · exact ⟨hlow, hhigh, .inr ⟨hok, w, hw, hword w (guarded_ok w hw) hprefix⟩⟩

theorem drop_prefix_append (window more : Text) (start : Nat) :
    window.drop start <+: (window ++ more).drop start := by
  rw [List.drop_append]
  exact List.prefix_append _ _

theorem AssertsStatus.append (h : AssertsStatus window start code) (more : Text) :
    AssertsStatus (window ++ more) start code :=
  h.imp fun _ _ hprefix => hprefix.trans (drop_prefix_append window more start)

theorem AssertsText.append {text : Text} (h : AssertsText window start text) (more : Text) :
    AssertsText (window ++ more) start text := by
  obtain ⟨w, hw, hprefix⟩ := h
  exact ⟨w, hw, hprefix.trans (drop_prefix_append window more start)⟩

/-- An assertion that begins before another ends before it, so nothing of it is cut off where the
other one is whole. -/
theorem AssertsStatus.before (h : AssertsStatus window start code)
    (h' : AssertsStatus (window ++ more) start' code') (hlt : start' < start) :
    AssertsStatus window start' code' := by
  refine h'.imp fun w' hw' hprefix' => ?_
  obtain ⟨w, hw, rest, hrest⟩ := h.guarded
  obtain ⟨e, bl, m, he, hbl, rfl, _⟩ := hw.front
  obtain ⟨rest', hrest'⟩ := hprefix'
  have hlen : start < window.length := by
    have := congrArg List.length hrest
    simp only [List.length_append, List.length_cons, List.length_drop] at this
    omega
  have hlater : (window ++ more).drop start = e ++ (bl ++ '(' :: (m ++ rest ++ more)) := by
    rw [List.drop_append_of_le_length (by omega), ← hrest]
    simp
  have hinside : w' ++ rest' = ((window ++ more).drop start').take (start - start') ++
      (e ++ (bl ++ '(' :: (m ++ rest ++ more))) := by
    have hstart : start' + (start - start') = start := by omega
    rw [← hlater, hrest', ← hstart, ← List.drop_drop, hstart, List.take_append_drop]
  have hend : w'.length ≤ start - start' := by
    rcases hw'.apart he hbl hinside with hnil | hle
    · have := congrArg List.length hnil
      simp only [List.length_take, List.length_drop, List.length_append, List.length_nil] at this
      omega
    · exact hle.trans (List.length_take_le ..)
  refine List.prefix_of_prefix_length_le ⟨rest', hrest'⟩ (drop_prefix_append window more start') ?_
  rw [List.length_drop]
  omega

theorem status_append {n : Nat} (h : (ofWindow window).status = some n) (more : Text) :
    (ofWindow (window ++ more)).status = some n := by
  have hnarrow := earliest_status window
  rw [h] at hnarrow
  obtain ⟨start, hasserts, hfirst⟩ := hnarrow
  have hwide := earliest_status (window ++ more)
  cases hstatus : (ofWindow (window ++ more)).status with
  | none =>
    rw [hstatus] at hwide
    exact absurd (hasserts.append more) (hwide start n)
  | some n' =>
    rw [hstatus] at hwide
    obtain ⟨start', hasserts', hfirst'⟩ := hwide
    rcases hfirst' start n (hasserts.append more) with ⟨_, rfl⟩ | hlt
    · rfl
    · rcases hfirst start' n' (hasserts.before hasserts' hlt) with ⟨rfl, _⟩ | hlater
      · omega
      · omega

theorem substring_append (h : (ofWindow window).substring.isSome = true) (more : Text) :
    (ofWindow (window ++ more)).substring.isSome = true := by
  obtain ⟨text, htext⟩ := Option.isSome_iff_exists.1 h
  have hnarrow := earliest_substring window
  rw [htext] at hnarrow
  obtain ⟨start, hasserts, _⟩ := hnarrow
  have hwide := earliest_substring (window ++ more)
  cases hsubstring : (ofWindow (window ++ more)).substring with
  | none =>
    rw [hsubstring] at hwide
    exact absurd (hasserts.append more) (hwide start text)
  | some _ => rfl

theorem status_take {t : Text} {w w' n : Nat} (hle : w ≤ w')
    (h : (ofWindow (t.take w)).status = some n) : (ofWindow (t.take w')).status = some n := by
  obtain ⟨k, rfl⟩ := Nat.exists_eq_add_of_le hle
  rw [List.take_add]
  exact status_append h _

theorem substring_take {t : Text} {w w' : Nat} (hle : w ≤ w')
    (h : (ofWindow (t.take w)).substring.isSome = true) :
    (ofWindow (t.take w')).substring.isSome = true := by
  obtain ⟨k, rfl⟩ := Nat.exists_eq_add_of_le hle
  rw [List.take_add]
  exact substring_append h _

end Asserted

/-- The status that was expected is expected still, and a text where one was. -/
structure Expectation.Extends (narrow wide : Expectation) : Prop where
  status : ∀ n, narrow.status = some n → wide.status = some n
  substring : narrow.substring.isSome = true → wide.substring.isSome = true

def Endpoint.Extends (narrow wide : Endpoint) : Prop :=
  wide = { narrow with expectation := wide.expectation } ∧
    narrow.expectation.Extends wide.expectation

structure Spec.Extends (narrow wide : Spec) : Prop where
  path : wide.path = narrow.path
  group : wide.group = narrow.group
  endpoints : List.Forall₂ Endpoint.Extends narrow.endpoints wide.endpoints

namespace Spec

open Url (UrlError)

variable {source : Text} {w w' : Nat}

theorem expectationFor_extends (hle : w ≤ w') (call : Call) :
    (expectationFor source call w).Extends (expectationFor source call w') := by
  unfold expectationFor
  cases call.closeIndex with
  | none => exact ⟨fun _ h => h, id⟩
  | some close => exact ⟨fun _ => Asserted.status_take hle, Asserted.substring_take hle⟩

theorem endpointFor_extends (hle : w ≤ w') (labels : LabelIndex) (call : Call) :
    Alike Endpoint.Extends (endpointFor source labels w call)
      (endpointFor source labels w' call) := by
  rw [endpointFor_eq, endpointFor_eq]
  cases nameFor call.method.name call.url (labels.nearest? call.offset) with
  | error e => exact .error e
  | ok name => exact .ok ⟨rfl, expectationFor_extends hle call⟩

theorem ofSource_extends (hle : w ≤ w') (clients : List Text) (source : Text) :
    Alike Spec.Extends (ofSource ⟨clients, w⟩ source) (ofSource ⟨clients, w'⟩ source) := by
  refine (alike_mapM fun call _ => endpointFor_extends hle _ call).bind fun es es' h => ?_
  exact .ok ⟨rfl, rfl, h⟩

end Spec

/-- A status that is found in a window is found in every wider one, and a text in every wider one
if in this; so with a wider window a source fails as it did, or gives the same endpoints with what
was expected of each, or more. -/
theorem window_widened {w w' : Nat} (hle : w ≤ w') :
    (∀ t : Text,
      (∀ n, (Asserted.ofWindow (t.take w)).status = some n →
        (Asserted.ofWindow (t.take w')).status = some n) ∧
      ((Asserted.ofWindow (t.take w)).substring.isSome = true →
        (Asserted.ofWindow (t.take w')).substring.isSome = true)) ∧
    ∀ (clients : List Text) (source : Text),
      Alike Spec.Extends (Spec.ofSource ⟨clients, w⟩ source) (Spec.ofSource ⟨clients, w'⟩ source) :=
  ⟨fun _ => ⟨fun _ => Asserted.status_take hle, Asserted.substring_take hle⟩,
    Spec.ofSource_extends hle⟩

/-- The end of the narrow window cuts off a second assertion. -/
theorem window_widened_cutOff :
    let t := "expect(r.ok()).toBe(true); expect(await r.status()).toBe(404)".toList
    (Asserted.ofWindow (t.take 40)).status = some 200 ∧
      (Asserted.ofWindow (t.take 61)).status = some 200 ∧
      Alike Spec.Extends (Spec.ofSource ⟨["r".toList], 40⟩ ("r.get('/a');".toList ++ t))
        (Spec.ofSource ⟨["r".toList], 61⟩ ("r.get('/a');".toList ++ t)) := by
  intro t
  have hle : 40 ≤ 61 := by decide
  have hnarrow : (Asserted.ofWindow (t.take 40)).status = some 200 := by decide +kernel
  exact ⟨hnarrow, ((window_widened hle).1 t).1 200 hnarrow, (window_widened hle).2 _ _⟩

end EndpointManifest
