import EndpointManifest.Proofs.Endpoint.Draft

/-! What was printed of an endpoint passes the checks again and is the endpoint that it was: an
absent member is an absent field, and what is expected goes back under its own names. -/

namespace EndpointManifest

open Text

namespace RawFields

variable {raw : RawFields} {name : Text} {α : Type} {check : Datum → Checked α}

theorem required_eq_valid {a : α} :
    raw.required name check = .valid a ↔ ∃ d, raw name = some d ∧ check d = .valid a := by
  unfold required
  split
  · next h => simp [h]
  · next d h => simp [h, Checked.under_eq_valid]

theorem check_of_optional {a : α} (h : raw.optional name check = .valid (some a)) :
    ∃ d, raw name = some d ∧ check d = .valid a := by
  unfold optional at h
  split at h
  · cases h
  · cases h
  · next d _ hd =>
    obtain ⟨a', ha', heq⟩ := Checked.map_eq_valid.1 (Checked.under_eq_valid.1 h)
    cases heq
    exact ⟨d, hd, ha'⟩

theorem optional_of_absent (h : raw name = none) : raw.optional name check = .valid none := by
  rw [optional, h]

theorem optional_of_check {d : Datum} {a : α} (h : raw name = some d) (hnull : d ≠ .null)
    (hcheck : check d = .valid a) : raw.optional name check = .valid (some a) := by
  unfold optional
  split
  · next hd => cases h.symm.trans hd
  · next hd => exact absurd (Option.some.inj (h.symm.trans hd)) hnull
  · next d' _ hd =>
    cases Option.some.inj (h.symm.trans hd)
    rw [hcheck]
    rfl

end RawFields

/-- What every check of an endpoint asks for. -/
structure Endpoint.Valid (e : Endpoint) : Prop where
  name : e.name ≠ []
  url : e.url ≠ []
  status : ∀ n, e.expectation.status = some n → 100 ≤ n ∧ n ≤ 599

theorem checkNonEmpty_eq_valid {d : Datum} {t : Text} (h : checkNonEmpty d = .valid t) : t ≠ [] := by
  unfold checkNonEmpty at h
  cases ht : d.toText with
  | error kind =>
    rw [ht] at h
    cases h
  | ok text =>
    rw [ht] at h
    cases text with
    | nil => cases h
    | cons c text => cases h; simp

namespace Expectation

theorem checkStatus_eq_valid {d : Datum} {n : Nat} (h : checkStatus d = .valid n) :
    100 ≤ n ∧ n ≤ 599 := by
  unfold checkStatus at h
  cases hn : d.toInt with
  | error kind =>
    rw [hn] at h
    cases h
  | ok k =>
    rw [hn] at h
    simp only [bind, Except.bind] at h
    split at h
    · cases h
    split at h
    · cases h
    · cases h
      omega

theorem status_of_ofRaw {raw : RawFields} {e : Expectation} (h : ofRaw raw = .valid e) :
    ∀ n, e.status = some n → 100 ≤ n ∧ n ≤ 599 := by
  rintro n hn
  obtain ⟨g, _, hg, _, rfl⟩ := Checked.seq_eq_valid.1 h
  obtain ⟨status, hstatus, rfl⟩ := Checked.map_eq_valid.1 hg
  cases hn
  obtain ⟨d, _, hcheck⟩ := RawFields.check_of_optional hstatus
  exact checkStatus_eq_valid hcheck

end Expectation

namespace Endpoint

theorem required_of_ofRaw {raw : RawFields} {e : Endpoint} (h : ofRaw raw = .valid e) :
    e.name ≠ [] ∧ e.url ≠ [] := by
  obtain ⟨_, _, hsix, _, rfl⟩ := Checked.seq_eq_valid.1 h
  obtain ⟨_, _, hfive, _, rfl⟩ := Checked.seq_eq_valid.1 hsix
  obtain ⟨_, _, hfour, _, rfl⟩ := Checked.seq_eq_valid.1 hfive
  obtain ⟨_, _, hthree, _, rfl⟩ := Checked.seq_eq_valid.1 hfour
  obtain ⟨_, _, htwo, hurl, rfl⟩ := Checked.seq_eq_valid.1 hthree
  obtain ⟨_, _, hone, _, rfl⟩ := Checked.seq_eq_valid.1 htwo
  obtain ⟨_, hname, rfl⟩ := Checked.map_eq_valid.1 hone
  obtain ⟨_, _, hname⟩ := RawFields.required_eq_valid.1 hname
  obtain ⟨_, _, hurl⟩ := RawFields.required_eq_valid.1 hurl
  exact ⟨checkNonEmpty_eq_valid hname, checkNonEmpty_eq_valid hurl⟩

end Endpoint

/-- Whatever a draft holds, the endpoint that is built from it is valid. -/
theorem Draft.valid_of_build {d : Draft} {e : Endpoint} (h : d.build = .valid e) : e.Valid := by
  unfold Draft.build at h
  simp only at h
  split at h
  · cases h
  · next expectation hexpectation =>
    obtain ⟨e, he, rfl⟩ := Checked.map_eq_valid.1 h
    obtain ⟨hname, hurl⟩ := Endpoint.required_of_ofRaw he
    exact ⟨hname, hurl, Expectation.status_of_ofRaw hexpectation⟩

/-- The raw entries of a printed expectation, under the names of its fields. -/
def Expectation.datumOf (j : Json) : Datum :=
  .mapping <|
    ((j.member? "status".toList).map fun d => (.text "status".toList, Datum.ofJson d)).toList ++
      ((j.member? "text".toList).map fun d => (.text "substring".toList, Datum.ofJson d)).toList

namespace Endpoint

def fieldsOf (j : Json) : RawFields := fun field =>
  if field = "expectation".toList then (j.member? "expect".toList).map Expectation.datumOf
  else (j.member? field).map Datum.ofJson

def ofJson (j : Json) : Checked Endpoint := ofRaw (fieldsOf j)

theorem fieldsOf_of_ne (j : Json) {field : Text} (h : field ≠ "expectation".toList) :
    fieldsOf j field = (j.member? field).map Datum.ofJson := if_neg h

theorem ofMembers_texts (entries : List (Text × Text)) :
    Datum.ofMembers (entries.map fun (k, v) => (k, .str v)) =
      (headerData entries).map fun (k, v) => (.text k, v) := by
  induction entries with
  | nil => rfl
  | cons entry entries ih =>
    rw [List.map_cons, Datum.ofMembers, ih]
    rfl

end Endpoint

theorem Expectation.ofDatum_toJson {e : Expectation}
    (h : ∀ n, e.status = some n → 100 ≤ n ∧ n ≤ 599) :
    ofDatum (datumOf e.toJson) = .valid e := by
  obtain ⟨status, substring⟩ := e
  have htext : ∀ s, Checked.ofExcept (Datum.text s).toText = .valid s := fun _ => rfl
  show ofRaw _ = _
  unfold ofRaw
  cases status with
  | none =>
    cases substring with
    | none => rfl
    | some s =>
      rw [RawFields.optional_of_absent rfl, RawFields.optional_of_check rfl Datum.noConfusion (htext s)]
      rfl
  | some n =>
    have hstatus := checkStatus_int (h n rfl)
    cases substring with
    | none =>
      rw [RawFields.optional_of_check rfl Datum.noConfusion hstatus, RawFields.optional_of_absent rfl]
      rfl
    | some s =>
      rw [RawFields.optional_of_check rfl Datum.noConfusion hstatus,
        RawFields.optional_of_check rfl Datum.noConfusion (htext s)]
      rfl

namespace Endpoint

def optionalMember (name : Text) (value : Option Json) : List (Text × Json) :=
  (value.map (name, ·)).toList

theorem lookup_optionalMember (name : Text) (value : Option Json) (rest : List (Text × Json)) :
    (optionalMember name value ++ rest).lookup name = value.or (rest.lookup name) := by
  cases value <;> simp [optionalMember]

theorem lookup_optionalMember_of_ne {name key : Text} (h : key ≠ name) (value : Option Json)
    (rest : List (Text × Json)) :
    (optionalMember name value ++ rest).lookup key = rest.lookup key := by
  have hne : (key == name) = false := beq_eq_false_iff_ne.2 h
  cases value <;> simp [optionalMember, List.lookup_cons, hne]

def headersJson? (e : Endpoint) : Option Json :=
  if e.headers.isEmpty then none else some (.obj (e.headers.map fun (k, v) => (k, .str v)))

def expectJson? (e : Endpoint) : Option Json :=
  if e.expectation.isEmpty then none else some e.expectation.toJson

def optionalMembers (e : Endpoint) : List (Text × Json) :=
  optionalMember "headers".toList e.headersJson? ++
    (optionalMember "auth".toList (e.auth.map fun a => .str a.name) ++
      (optionalMember "expect".toList e.expectJson? ++
        (optionalMember "body".toList (e.body.map .str) ++ [])))

theorem toJson_eq {e : Endpoint} (hbody : e.body ≠ some []) :
    e.toJson = .obj (("name".toList, .str e.name) :: ("method".toList, .str e.method.name) ::
      ("url".toList, .str e.url) :: e.optionalMembers) := by
  have hheaders : (if e.headers.isEmpty then []
      else [("headers".toList, Json.obj (e.headers.map fun (k, v) => (k, .str v)))]) =
        optionalMember "headers".toList e.headersJson? := by
    unfold headersJson?
    split <;> rfl
  have hexpect : (if e.expectation.isEmpty then [] else [("expect".toList, e.expectation.toJson)]) =
      optionalMember "expect".toList e.expectJson? := by
    unfold expectJson?
    split <;> rfl
  have hauth : (e.auth.map fun a => ("auth".toList, Json.str a.name)).toList =
      optionalMember "auth".toList (e.auth.map fun a => .str a.name) := by
    rw [optionalMember, Option.map_map]
    rfl
  unfold toJson optionalMembers
  rw [hheaders, hexpect, hauth]
  rcases hb : e.body with _ | _ | ⟨c, body⟩
  · simp [optionalMember]
  · exact absurd hb hbody
  · simp [optionalMember]

section Members

variable {e : Endpoint} (hbody : e.body ≠ some [])

include hbody

theorem member?_headers : e.toJson.member? "headers".toList = e.headersJson? := by
  rw [toJson_eq hbody]
  show e.optionalMembers.lookup _ = _
  rw [optionalMembers, lookup_optionalMember, lookup_optionalMember_of_ne (by decide),
    lookup_optionalMember_of_ne (by decide), lookup_optionalMember_of_ne (by decide)]
  exact Option.or_none

theorem member?_auth : e.toJson.member? "auth".toList = e.auth.map fun a => .str a.name := by
  rw [toJson_eq hbody]
  show e.optionalMembers.lookup _ = _
  rw [optionalMembers, lookup_optionalMember_of_ne (by decide), lookup_optionalMember,
    lookup_optionalMember_of_ne (by decide), lookup_optionalMember_of_ne (by decide)]
  exact Option.or_none

theorem member?_expect : e.toJson.member? "expect".toList = e.expectJson? := by
  rw [toJson_eq hbody]
  show e.optionalMembers.lookup _ = _
  rw [optionalMembers, lookup_optionalMember_of_ne (by decide),
    lookup_optionalMember_of_ne (by decide), lookup_optionalMember,
    lookup_optionalMember_of_ne (by decide)]
  exact Option.or_none

theorem member?_body : e.toJson.member? "body".toList = e.body.map .str := by
  rw [toJson_eq hbody]
  show e.optionalMembers.lookup _ = _
  rw [optionalMembers, lookup_optionalMember_of_ne (by decide),
    lookup_optionalMember_of_ne (by decide), lookup_optionalMember_of_ne (by decide),
    lookup_optionalMember]
  exact Option.or_none

end Members

theorem optional_headers_toJson {e : Endpoint} (hbody : e.body ≠ some []) :
    ∃ headers, (fieldsOf e.toJson).optional "headers".toList checkHeaders = .valid headers ∧
      headers.getD [] = e.headers := by
  have hfield := fieldsOf_of_ne e.toJson (show "headers".toList ≠ _ by decide)
  rw [member?_headers hbody, headersJson?] at hfield
  cases hheaders : e.headers with
  | nil =>
    rw [hheaders] at hfield
    exact ⟨none, RawFields.optional_of_absent hfield, rfl⟩
  | cons entry entries =>
    have hcheck := checkEntries_headerData e.headers
    rw [← ofMembers_texts, hheaders] at hcheck
    rw [hheaders] at hfield
    exact ⟨_, RawFields.optional_of_check hfield Datum.noConfusion hcheck, rfl⟩

theorem optional_auth_toJson {e : Endpoint} (hbody : e.body ≠ some []) :
    (fieldsOf e.toJson).optional "auth".toList checkAuth = .valid e.auth := by
  have hfield := fieldsOf_of_ne e.toJson (show "auth".toList ≠ _ by decide)
  rw [member?_auth hbody] at hfield
  cases hauth : e.auth with
  | none =>
    rw [hauth] at hfield
    exact RawFields.optional_of_absent hfield
  | some auth =>
    cases auth
    rw [hauth] at hfield
    exact RawFields.optional_of_check hfield Datum.noConfusion rfl

theorem optional_body_toJson {e : Endpoint} (hbody : e.body ≠ some []) :
    (fieldsOf e.toJson).optional "body".toList (.ofExcept ·.toText) = .valid e.body := by
  have hfield := fieldsOf_of_ne e.toJson (show "body".toList ≠ _ by decide)
  rw [member?_body hbody] at hfield
  cases hb : e.body with
  | none =>
    rw [hb] at hfield
    exact RawFields.optional_of_absent hfield
  | some body =>
    rw [hb] at hfield
    exact RawFields.optional_of_check hfield Datum.noConfusion rfl

theorem expectation_toJson {e : Endpoint} (h : e.Valid) (hbody : e.body ≠ some []) :
    fieldsOf e.toJson "expectation".toList = none ∧ e.expectation = {} ∨
      ∃ d, fieldsOf e.toJson "expectation".toList = some d ∧
        Expectation.ofDatum d = .valid e.expectation := by
  have hfield : fieldsOf e.toJson "expectation".toList =
      (e.toJson.member? "expect".toList).map Expectation.datumOf := if_pos rfl
  rw [member?_expect hbody, expectJson?] at hfield
  by_cases hempty : e.expectation.isEmpty = true
  · rw [if_pos hempty] at hfield
    obtain ⟨hstatus, hsubstring⟩ : e.expectation.status = none ∧ e.expectation.substring = none := by
      simpa [Expectation.isEmpty] using hempty
    have heq : e.expectation = ⟨e.expectation.status, e.expectation.substring⟩ := rfl
    exact .inl ⟨hfield, by rw [heq, hstatus, hsubstring]⟩
  · rw [if_neg hempty] at hfield
    exact .inr ⟨_, hfield, Expectation.ofDatum_toJson h.status⟩

/-- A valid endpoint is rebuilt from what was printed of it. -/
theorem ofJson_toJson {e : Endpoint} (h : e.Valid) (hbody : e.body ≠ some []) :
    ofJson e.toJson = .valid e := by
  obtain ⟨headers, hheaders, hentries⟩ := optional_headers_toJson hbody
  have hname : fieldsOf e.toJson "name".toList = some (.text e.name) := rfl
  have hmethod : fieldsOf e.toJson "method".toList = some (.text e.method.name) := rfl
  have hurl : fieldsOf e.toJson "url".toList = some (.text e.url) := rfl
  unfold ofJson ofRaw
  rw [RawFields.required_text hname h.name, required_method hmethod,
    RawFields.required_text hurl h.url, hheaders, optional_body_toJson hbody,
    optional_auth_toJson hbody]
  obtain ⟨hnone, hexpectation⟩ | ⟨d, hsome, hexpectation⟩ := expectation_toJson h hbody
  · rw [hnone]
    simp only [Checked.map_valid, Checked.seq_valid, hentries, ← hexpectation]
  · rw [hsome]
    simp only [hexpectation, Checked.under_valid, Checked.map_valid, Checked.seq_valid, hentries]

end Endpoint
end EndpointManifest
