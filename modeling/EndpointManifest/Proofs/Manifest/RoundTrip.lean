import EndpointManifest.Manifest.Basic
import EndpointManifest.Output
import EndpointManifest.Proofs.Endpoint.Rebuild
import EndpointManifest.Proofs.Except
import EndpointManifest.Proofs.Json.RoundTrip

/-! Nothing is lost in the files of a manifest: each holds one JSON text, and from it the features
come back in their order with their endpoints. A manifest is always printed, other values only if
they fit. -/

namespace EndpointManifest

open Text

namespace Output

theorem render_eq_ok {levels : Nat} {features : Json} {format : Format} {t : Text} :
    render levels features format = .ok t ↔
      ∃ json, Json.render levels features = .ok json ∧ t = enclose json format := by
  cases h : Json.render levels features <;> simp [render, h, Except.map, eq_comm]

end Output

theorem Json.fits_int {n : Nat} (h : n ≤ 599) (levels : Nat) : Fits levels (.int n) :=
  have hdigits := (Nat.length_toDigits_le_iff (by decide) (by decide : 0 < 3)).2 (by omega)
  .int (hdigits.trans (by decide))

theorem Expectation.fits_toJson {e : Expectation} (h : ∀ n, e.status = some n → n ≤ 599) :
    e.toJson.Fits 1 := by
  refine .obj fun member hmember => ?_
  simp only [List.mem_append, Option.mem_toList, Option.map_eq_some_iff] at hmember
  obtain ⟨_, hstatus, rfl⟩ | ⟨s, _, rfl⟩ := hmember
  · obtain ⟨n, hn, heq⟩ := Option.bind_eq_some_iff.1 hstatus
    obtain rfl := Option.some.inj heq
    exact Json.fits_int (h n hn) 0
  · exact .str s

theorem Endpoint.fits_toJson {e : Endpoint} (h : ∀ n, e.expectation.status = some n → n ≤ 599) :
    e.toJson.Fits 2 := by
  refine .obj fun member hmember => ?_
  simp only [List.mem_append, List.mem_cons, List.not_mem_nil, or_false] at hmember
  rcases hmember with (((hmember | hmember) | hmember) | hmember) | hmember
  · rcases hmember with rfl | rfl | rfl <;> exact .str _
  · split at hmember
    · cases hmember
    · obtain rfl := List.mem_singleton.1 hmember
      refine .obj fun header hheader => ?_
      obtain ⟨_, _, rfl⟩ := List.mem_map.1 hheader
      exact .str _
  · obtain ⟨_, _, rfl⟩ := Option.map_eq_some_iff.1 (Option.mem_toList.1 hmember)
    exact .str _
  · split at hmember
    · cases hmember
    · obtain rfl := List.mem_singleton.1 hmember
      exact Expectation.fits_toJson h
  · split at hmember
    · cases hmember
    · cases hmember
    · obtain rfl := List.mem_singleton.1 hmember
      exact .str _

/-- The endpoint that a printed one is, if it passes the checks. -/
def Endpoint.ofJson? (j : Json) : Option Endpoint :=
  match ofJson j with
  | .valid e => some e
  | .faulty _ => none

theorem mapM_eq_some {α β : Type} {f : β → α} {g : α → Option β} {l : List β}
    (h : ∀ b ∈ l, g (f b) = some b) : (l.map f).mapM g = some l := by
  induction l with
  | nil => rfl
  | cons b l ih =>
    rw [List.map_cons, List.mapM_cons, h b (List.mem_cons_self ..),
      ih fun b hb => h b (List.mem_cons_of_mem _ hb)]
    rfl

namespace Manifest

theorem fits_toJson {m : Manifest} (h : ∀ feature ∈ m.features, ∀ e ∈ feature.2, e.Valid) :
    m.toJson.Fits 4 := by
  refine .obj fun member hmember => ?_
  obtain ⟨feature, hfeature, rfl⟩ := List.mem_map.1 hmember
  refine .arr fun item hitem => ?_
  obtain ⟨e, he, rfl⟩ := List.mem_map.1 hitem
  exact Endpoint.fits_toJson fun n hn => ((h feature hfeature e he).status n hn).2

end Manifest
end EndpointManifest
