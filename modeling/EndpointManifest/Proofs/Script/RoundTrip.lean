import EndpointManifest.Proofs.Script.Fields
import EndpointManifest.Proofs.Script.Window
import EndpointManifest.Proofs.Spec

/-! Reading a script gives back what it was written from: its group, and for each of its tests, in
order, the endpoint that the test stands for. -/

namespace EndpointManifest.Script

open Text

namespace Test

theorem trim_ne_nil {c : Text} (h : ¬ AllBlank c) : trim c ≠ [] := by
  intro hnil
  have hwords : words c = [] := by
    rw [← words_trim, hnil]
    rfl
  exact h (words_eq_nil_iff.1 hwords)

theorem headersFor_contentType (e : Test) :
    Spec.headersFor e.method (e.contentType.map trim) = e.endpoint.headers := by
  unfold endpoint
  cases hc : e.contentType with
  | none => rfl
  | some c =>
    obtain ⟨d, rest, htrim⟩ :=
      List.exists_cons_of_ne_nil (trim_ne_nil (e.plain_contentType c hc).2.2)
    simp only [Option.map_some, Spec.headersFor, htrim]

end Test

variable {s : Script} {n : Nat} {e : Test} {window : Nat}

/-- The window begins with the test's own assertion. -/
theorem expectationFor_call (h : (n, e) ∈ placed s.opening.length s.tests)
    (hwindow : e.assertion.length ≤ window) :
    Spec.expectationFor s.render (e.call n) window = e.endpoint.expectation := by
  obtain ⟨u, v, hrender, rfl⟩ := exists_render_eq h
  let front : Text := u ++ (e.beforeRequest ++ (e.requestWord ++ '(' :: (e.arguments ++ [')'])))
  let rest : Text := ';' :: (e.back.text ++ blockClose) ++ v
  have hsplit : s.render = front ++ (e.assertion ++ rest) := by
    rw [hrender, e.render_eq_request, Test.afterRequest]
    simp [front, rest]
  have hclose : u.length + e.requestStart + e.requestWord.length + 1 + e.arguments.length + 1 =
      front.length := by
    simp only [front, Test.requestStart, List.length_append, List.length_cons, List.length_nil]
    omega
  have htake : (s.render.drop front.length).take window =
      e.assertion ++ rest.take (window - e.assertion.length) := by
    rw [hsplit, List.drop_left, List.take_append, List.take_of_length_le hwindow]
  have hunled : Unled (solidEnd none front) (e.assertion ++
      rest.take (window - e.assertion.length) ++ rest.drop (window - e.assertion.length)) := by
    have hscript := s.unled_script
    rw [hsplit] at hscript
    rw [List.append_assoc, List.take_append_drop]
    exact (unled_append.1 hscript).2
  show (⟨_, _⟩ : Expectation) = _
  rw [hclose, htake, ofWindow_assertion e hunled]
  rfl

theorem endpointFor_call (h : (n, e) ∈ placed s.opening.length s.tests)
    (hwindow : e.assertion.length ≤ window) :
    Spec.endpointFor s.render (LabelIndex.ofSource s.render) window (e.call n) =
      .ok e.endpoint := by
  apply Spec.endpointFor_eq_ok.2
  refine ⟨e.title, ?_, ?_⟩
  · rw [nearest?_render h]
    exact Spec.nameFor_title e.plain_title.2.1
  · rw [expectationFor_call h hwindow]
    show e.endpoint =
      { name := e.title, method := e.method, url := e.url,
        headers := Spec.headersFor e.method (Options.fields e.options).contentType,
        auth := if (Options.fields e.options).bearer then some .bearer else none,
        expectation := e.endpoint.expectation, body := (Options.fields e.options).body }
    rw [e.fields_options, e.headersFor_contentType]
    rfl

/-- With the receivers that no setting has changed, and a window that reaches over each assertion,
a script reads as its group and one endpoint for each test. -/
theorem ofSource_render (s : Script) {settings : Settings}
    (hreceivers : settings.receivers = ({} : Settings).receivers)
    (hwindow : ∀ e ∈ s.tests, e.assertion.length ≤ settings.window) :
    Spec.ofSource settings.reading s.render =
      .ok { path := [], group := some s.group, endpoints := s.tests.map Test.endpoint } := by
  apply Spec.ofSource_eq_ok.2
  refine ⟨rfl, (outermost?_render s).symm, ?_⟩
  have hclients : settings.reading.clients = receivers := hreceivers
  have htests : s.tests.map Test.endpoint =
      (placed s.opening.length s.tests).map fun x => x.2.endpoint := by
    conv_lhs => rw [← map_placed s.opening.length s.tests]
    rw [List.map_map]
    rfl
  show List.Forall₂ _ (Call.findCalls s.render settings.reading.clients) (s.tests.map Test.endpoint)
  rw [hclients, findCalls_render, htests, List.forall₂_map_left_iff, List.forall₂_map_right_iff]
  apply List.forall₂_same.2
  rintro ⟨n, e⟩ hmem
  have he : e ∈ s.tests := by
    rw [← map_placed s.opening.length s.tests]
    exact List.mem_map_of_mem hmem
  exact endpointFor_call hmem (hwindow e he)

def newLine : Gap := ⟨['\n'], by decide⟩

def creation : Test where
  front := newLine
  inside := Test.space
  after := Test.space
  back := Test.space
  title := "creates".toList
  method := .post
  url := "/api/orders".toList
  contentType := some "application/json".toList
  token := some "abc".toList
  payload := " item: \x7b id: 7 \x7d ".toList
  status := 201
  plain_title := by decide
  plain_url := by decide
  plain_contentType := by
    rintro c ⟨rfl⟩
    decide
  plain_token := by
    rintro k ⟨rfl⟩
    decide
  plain_payload := by decide
  status_range := by decide

def query : Test where
  front := newLine
  inside := Test.space
  after := Test.space
  back := Test.space
  title := "lists".toList
  method := .get
  url := "/api/orders".toList
  contentType := none
  token := none
  payload := []
  status := 200
  plain_title := by decide
  plain_url := by decide
  plain_contentType := by
    rintro c ⟨⟩
  plain_token := by
    rintro k ⟨⟩
  plain_payload := by decide
  status_range := by decide

def orders : Script where
  group := "Orders".toList
  tests := [creation, query]
  ending := newLine
  final := newLine
  plain_group := by decide

theorem ofSource_render_orders :
    orders.render = [
        "test.describe('Orders', () => \x7b\n",
        "test('creates', async (\x7b request \x7d) => \x7b",
        " const r = await request.post('/api/orders',",
        " \x7b headers: \x7b 'Content-Type': 'application/json',",
        " Authorization: 'Bearer abc' \x7d,",
        " data: \x7b item: \x7b id: 7 \x7d \x7d \x7d);",
        " expect(r.status()).toBe(201); \x7d);\n",
        "test('lists', async (\x7b request \x7d) => \x7b",
        " const r = await request.get('/api/orders',",
        " \x7b data: \x7b\x7d \x7d);",
        " expect(r.status()).toBe(200); \x7d);\n",
        "\x7d);\n"].flatMap String.toList ∧
      (∀ e ∈ orders.tests, e.assertion.length ≤ ({} : Settings).window) ∧
      Spec.ofSource ({} : Settings).reading orders.render =
        .ok { path := [], group := some "Orders".toList,
              endpoints := [creation.endpoint, query.endpoint] } :=
  ⟨by decide +kernel, by decide, ofSource_render orders rfl (by decide)⟩

end EndpointManifest.Script
