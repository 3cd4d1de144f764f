import EndpointManifest.Endpoint.Draft
import EndpointManifest.Proofs.Schema.Fault
import EndpointManifest.Proofs.WellFormed

/-! The checks of a draft never reject what was read from a source: a well-formed endpoint, taken
apart into a draft, is built again as it was. -/

namespace EndpointManifest

open Text

def Datum.ofText? (t : Option Text) : Datum := (t.map Datum.text).getD .null

def Datum.ofStatus? (n : Option Nat) : Datum := (n.map fun n => Datum.int n).getD .null

theorem Expectation.checkStatus_int {n : Nat} (h : 100 ≤ n ∧ n ≤ 599) :
    checkStatus (.int n) = .valid n := by
  have hlow : ¬ (n : Int) < 100 := by omega
  have hhigh : ¬ 599 < (n : Int) := by omega
  simp only [checkStatus, Datum.toInt, bind, Except.bind, if_neg hlow, if_neg hhigh]
  rfl

namespace RawFields

variable {raw : RawFields} {name : Text} {α : Type} {check : Datum → Checked α}

theorem optional_of_null (h : raw name = some .null) : raw.optional name check = .valid none := by
  rw [optional, h]

theorem optional_ofText? {t : Option Text} (h : raw name = some (Datum.ofText? t)) :
    raw.optional name (fun d => .ofExcept d.toText) = .valid t := by
  cases t with
  | none => exact optional_of_null h
  | some t => rw [optional, h]; rfl

theorem optional_ofStatus? {n : Option Nat} (h : raw name = some (Datum.ofStatus? n))
    (hrange : ∀ k, n = some k → 100 ≤ k ∧ k ≤ 599) :
    raw.optional name Expectation.checkStatus = .valid n := by
  cases n with
  | none => exact optional_of_null h
  | some n =>
    rw [optional, h]
    show ((some <$> Expectation.checkStatus (.int n)).under (.field name)) = _
    rw [Expectation.checkStatus_int (hrange n rfl), Checked.map_valid, Checked.under_valid]

theorem required_text {t : Text} (h : raw name = some (.text t)) (hne : t ≠ []) :
    raw.required name checkNonEmpty = .valid t := by
  have hcheck : checkNonEmpty (.text t) = .valid t := by
    cases t with
    | nil => exact absurd rfl hne
    | cons c t => rfl
  rw [required, h]
  show (checkNonEmpty (.text t)).under _ = _
  rw [hcheck, Checked.under_valid]

end RawFields

namespace Endpoint

def headerData (entries : List (Text × Text)) : List (Text × Datum) :=
  entries.map fun (k, v) => (k, .text v)

theorem checkEntries_headerData (entries : List (Text × Text)) :
    checkEntries ((headerData entries).map fun (k, v) => (.text k, v)) = .valid entries := by
  induction entries with
  | nil => rfl
  | cons entry entries ih =>
    have hentry : checkHeader (.text entry.1, .text entry.2) = .valid entry := rfl
    show List.cons <$> checkHeader (.text entry.1, .text entry.2) <*>
      checkEntries ((headerData entries).map fun (k, v) => (.text k, v)) = _
    rw [ih, hentry]
    rfl

theorem optional_headerData {entries : List (Text × Text)} {raw : RawFields}
    (h : raw "headers".toList =
      some (if (headerData entries).isEmpty then .null
        else .mapping ((headerData entries).map fun (k, v) => (.text k, v)))) :
    ∃ headers, raw.optional "headers".toList checkHeaders = .valid headers ∧
      headers.getD [] = entries := by
  cases entries with
  | nil => exact ⟨none, RawFields.optional_of_null h, rfl⟩
  | cons entry entries =>
    have hcheck := checkEntries_headerData (entry :: entries)
    refine ⟨some (entry :: entries), ?_, rfl⟩
    rw [RawFields.optional, h]
    show (some <$> checkEntries _).under _ = _
    rw [hcheck]
    rfl

theorem required_method {raw : RawFields} {m : Method}
    (h : raw "method".toList = some (.text m.name)) :
    raw.required "method".toList checkMethod = .valid m := by
  rw [RawFields.required, h]
  cases m <;> rfl

theorem optional_auth {raw : RawFields} {auth : Option Auth}
    (h : raw "auth".toList = some (Datum.ofText? (auth.map Auth.name))) :
    raw.optional "auth".toList checkAuth = .valid auth := by
  cases auth with
  | none => exact RawFields.optional_of_null h
  | some auth =>
    cases auth
    rw [RawFields.optional, h]
    rfl

theorem ofRaw_valid {e : Endpoint} (he : e.WellFormed) {raw : RawFields}
    (hname : raw "name".toList = some (.text e.name))
    (hmethod : raw "method".toList = some (.text e.method.name))
    (hurl : raw "url".toList = some (.text e.url))
    (hheaders : raw "headers".toList =
      some (if (headerData e.headers).isEmpty then .null
        else .mapping ((headerData e.headers).map fun (k, v) => (.text k, v))))
    (hbody : raw "body".toList = some (Datum.ofText? e.body))
    (hauth : raw "auth".toList = some (Datum.ofText? (e.auth.map Auth.name)))
    (hexpectation : raw "expectation".toList = none) :
    ofRaw raw = .valid { e with expectation := {} } := by
  obtain ⟨headers, hheaders, hentries⟩ := optional_headerData hheaders
  rw [ofRaw, RawFields.required_text hname he.name, required_method hmethod,
    RawFields.required_text hurl he.url.1, hheaders, RawFields.optional_ofText? hbody,
    optional_auth hauth, hexpectation]
  simp only [Checked.map_valid, Checked.seq_valid, hentries]

end Endpoint

namespace Draft

def ofEndpoint (e : Endpoint) : Draft where
  method := e.method.name
  url := .text e.url
  name := .text e.name
  headers := Endpoint.headerData e.headers
  body := Datum.ofText? e.body
  auth := Datum.ofText? (e.auth.map Auth.name)
  status := Datum.ofStatus? e.expectation.status
  substring := Datum.ofText? e.expectation.substring

theorem displayName_ofEndpoint {e : Endpoint} (h : e.name ≠ []) :
    (ofEndpoint e).displayName = .text e.name := by
  have hblank : (Datum.text e.name).isBlank = false := by
    cases hname : e.name with
    | nil => exact absurd hname h
    | cons c name => rfl
  rw [displayName]
  show (if (Datum.text e.name).isBlank then _ else Datum.text e.name) = _
  rw [hblank]
  rfl

theorem build_ofEndpoint {e : Endpoint} (h : e.WellFormed) : (ofEndpoint e).build = .valid e := by
  have hexpect : Expectation.ofRaw (fun field =>
      if field = "status".toList then some (ofEndpoint e).status
      else if field = "substring".toList then some (ofEndpoint e).substring
      else none) = .valid e.expectation := by
    rw [Expectation.ofRaw, RawFields.optional_ofStatus? (n := e.expectation.status) rfl h.status,
      RawFields.optional_ofText? (t := e.expectation.substring) rfl]
    rfl
  rw [build, hexpect, displayName_ofEndpoint h.name]
  simp only
  rw [Endpoint.ofRaw_valid h rfl rfl rfl rfl rfl rfl rfl]
  rfl

end Draft

namespace Spec

/-- Sets the content type that was recovered, unless the method sends none. -/
def setContentType (method : Method) (contentType : Option Text) (d : Draft) : Draft :=
  match contentType with
  | some (c :: rest) =>
    if method = .get then d else d.setHeader "Content-Type".toList (.text (c :: rest))
  | _ => d

def setBody (body : Option Text) (d : Draft) : Draft :=
  match body with
  | some (c :: rest) => { d with body := .text (c :: rest) }
  | _ => d

/-- The draft that a call fills in, field by field, under the name that was chosen for it. -/
def draftFor (source name : Text) (window : Nat) (call : Call) : Draft :=
  let found := Options.fields call.options
  let draft := { Draft.start call.method.name call.url with name := .text name }
  let draft := setContentType call.method found.contentType draft
  let draft := if found.bearer then { draft with auth := .text Auth.bearer.name } else draft
  let draft := setBody found.body draft
  if call.isClosed then
    let expected := expectationFor source call window
    draft.setExpectation (Datum.ofStatus? expected.status) (Datum.ofText? expected.substring)
  else draft

theorem setContentType_eq {method : Method} {contentType : Option Text} {d : Draft}
    (h : d.headers = []) : setContentType method contentType d =
      { d with headers := Endpoint.headerData (headersFor method contentType) } := by
  have hself : d = { d with headers := Endpoint.headerData [] } := by cases d; simp_all; rfl
  rcases contentType with _ | _ | ⟨c, rest⟩
  · exact hself
  · exact hself
  · by_cases hm : method = .get
    · rw [setContentType, headersFor, if_pos hm, if_pos hm]
      exact hself
    · rw [setContentType, headersFor, if_neg hm, if_neg hm, Draft.setHeader, h]
      rfl

theorem setBody_eq {body : Option Text} {d : Draft} (h : d.body = .null) (hne : body ≠ some []) :
    setBody body d = { d with body := Datum.ofText? body } := by
  rcases body with _ | _ | ⟨c, rest⟩
  · cases d; simp_all [setBody, Datum.ofText?]
  · exact absurd rfl hne
  · rfl

theorem setExpectation_eq {d : Draft} {status : Option Nat} {substring : Option Text}
    (hs : d.status = .null) (ht : d.substring = .null) :
    d.setExpectation (Datum.ofStatus? status) (Datum.ofText? substring) =
      { d with status := Datum.ofStatus? status, substring := Datum.ofText? substring } := by
  cases status <;> cases substring <;> simp [Draft.setExpectation, Datum.ofStatus?, Datum.ofText?,
    hs, ht]

theorem draftFor_eq {source : Text} {labels : LabelIndex} {window : Nat} {call : Call}
    {e : Endpoint} (h : endpointFor source labels window call = .ok e) :
    draftFor source e.name window call = Draft.ofEndpoint e := by
  obtain ⟨name, _, rfl⟩ := endpointFor_eq_ok.1 h
  have hupper : upper call.method.name = call.method.name := by cases call.method <;> decide
  have hbody : (Options.fields call.options).body ≠ some [] := by
    intro hb
    exact (Options.singleSpaced_body hb).ne_nil rfl
  simp only [draftFor, Draft.start, hupper]
  rw [setContentType_eq rfl]
  cases hbearer : (Options.fields call.options).bearer
  all_goals
    rw [setBody_eq rfl hbody]
    by_cases hclose : call.isClosed = true
    · rw [if_pos hclose, setExpectation_eq rfl rfl]
      rfl
    · have hopen : call.closeIndex = none := by simpa [Call.isClosed] using hclose
      rw [if_neg hclose, expectationFor, hopen]
      rfl

end Spec
end EndpointManifest
