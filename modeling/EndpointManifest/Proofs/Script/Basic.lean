import EndpointManifest.Assertion
import EndpointManifest.Endpoint.Basic
import EndpointManifest.Proofs.Delimiter
import EndpointManifest.Proofs.Options.Literal

/-! Scripts as they are written: a group of tests, each with one request and one assertion about its
status, and the endpoints that they stand for. -/

namespace EndpointManifest

open Text

def Plain (t : Text) : Prop := ∀ c ∈ t, isQuote c = false ∧ c ≠ '(' ∧ c ≠ ')'

instance (t : Text) : Decidable (Plain t) :=
  inferInstanceAs (Decidable (∀ c ∈ t, isQuote c = false ∧ c ≠ '(' ∧ c ≠ ')'))

theorem Plain.not_mem {t : Text} (h : Plain t) {c : Char} (hc : c = '(' ∨ c = ')') : c ∉ t := by
  intro hmem
  rcases hc with rfl | rfl
  · exact (h _ hmem).2.1 rfl
  · exact (h _ hmem).2.2 rfl

def Braceless (t : Text) : Prop := ∀ c ∈ t, c ≠ '{' ∧ c ≠ '}'

instance (t : Text) : Decidable (Braceless t) :=
  inferInstanceAs (Decidable (∀ c ∈ t, c ≠ '{' ∧ c ≠ '}'))

/-- A status is written in three digits, which read back as the status. -/
theorem digits_of_status {n : Nat} (h : 100 ≤ n ∧ n ≤ 599) : ∃ i j k, ofNat n = [i, j, k] ∧
    (∀ c ∈ ofNat n, isAsciiDigit c = true) ∧ Assertion.threeDigits? [i, j, k] = some (n, []) := by
  have hall : ∀ n < 600, 100 ≤ n → (ofNat n).length = 3 ∧ (∀ c ∈ ofNat n, isAsciiDigit c = true) ∧
      Assertion.threeDigits? (ofNat n) = some (n, []) := by decide +kernel
  obtain ⟨hlen, hdigits, hread⟩ := hall n (by omega) h.1
  obtain ⟨i, j, k, hijk⟩ := List.length_eq_three.1 hlen
  refine ⟨i, j, k, hijk, hdigits, ?_⟩
  rw [← hijk]
  exact hread

namespace Script

/-- One test of a script. Blanks stand before it, before and after its request, and at its end. -/
structure Test where
  front : Gap
  inside : Gap
  after : Gap
  back : Gap
  title : Text
  method : Method
  url : Text
  contentType : Option Text
  /-- The bearer token, where the request is authorised by one. -/
  token : Option Text
  /-- What the body holds between its braces. -/
  payload : Text
  status : Nat
  plain_title : Plain title ∧ title ≠ [] ∧ '\n' ∉ title
  plain_url : Plain url ∧ url ≠ []
  plain_contentType : ∀ c, contentType = some c → Plain c ∧ Braceless c ∧ ¬ AllBlank c
  plain_token : ∀ k, token = some k → Plain k ∧ Braceless k
  plain_payload : Plain payload ∧ Delimiter.Balanced '{' '}' payload
  status_range : 100 ≤ status ∧ status ≤ 599

/-! The fixed parts, cut at each opening parenthesis. -/

def describeWord : Text := "test.describe".toList
def groupOpen : Text := ") => \x7b".toList
def testWord : Text := "test".toList
def asyncWord : Text := " async ".toList
def testOpen : Text := "\x7b request \x7d) => \x7b".toList
def declaration : Text := "const r = await ".toList
def client : Text := "request".toList
def expectWord : Text := "expect".toList
def statusWord : Text := "r.status".toList
def matcher : Text := ")).toBe".toList
def blockClose : Text := "\x7d);".toList

def contentTypeKey : Text := "'Content-Type': '".toList
def tokenKey : Text := "Authorization: 'Bearer ".toList
def headersKey : Text := "headers: ".toList
def dataKey : Text := "data: ".toList

namespace Test

/-- The members of the headers: `'Content-Type': 'C'` and `Authorization: 'Bearer K'`. -/
def members (e : Test) : List Text :=
  (e.contentType.map fun c => contentTypeKey ++ (c ++ ['\''])).toList ++
    (e.token.map fun k => tokenKey ++ (k ++ ['\''])).toList

def headersBlock (e : Test) : Text := ['{', ' '] ++ (join [',', ' '] e.members ++ [' ', '}'])

def headersEntry (e : Test) : Text :=
  if e.members = [] then [] else headersKey ++ (e.headersBlock ++ [',', ' '])

def body (e : Test) : Text := '{' :: (e.payload ++ ['}'])

def options (e : Test) : Text :=
  ['{', ' '] ++ (e.headersEntry ++ (dataKey ++ (e.body ++ [' ', '}'])))

def request (e : Test) : Text :=
  client ++ '.' :: (e.method.verb ++ '(' :: '\'' :: (e.url ++ '\'' :: ',' :: ' ' ::
    (e.options ++ [')'])))

/-- `; expect(r.status()).toBe(S)`, from the parenthesis that closes the request. -/
def assertion (e : Test) : Text :=
  ';' :: (e.after.text ++ (expectWord ++ '(' :: (statusWord ++ '(' :: (matcher ++ '(' ::
    (ofNat e.status ++ [')'])))))

/-- `test('T', async ({ request }) => { const r = await request.post('U', { … });
expect(r.status()).toBe(S); });`. -/
def render (e : Test) : Text :=
  e.front.text ++ (testWord ++ '(' :: '\'' :: (e.title ++ '\'' :: ',' :: (asyncWord ++ '(' ::
    (testOpen ++ (e.inside.text ++ (declaration ++ (e.request ++ (e.assertion ++ ';' ::
      (e.back.text ++ blockClose)))))))))

/-- What the test says of its endpoint. A GET sends no content type. -/
def endpoint (e : Test) : Endpoint where
  name := e.title
  method := e.method
  url := e.url
  headers :=
    match e.contentType with
    | some c => if e.method = .get then [] else [("Content-Type".toList, trim c)]
    | none => []
  auth := if e.token.isSome then some .bearer else none
  expectation := ⟨some e.status, none⟩
  body := some (join [' '] (words e.body))

theorem mem_members {e : Test} {m : Text} (h : m ∈ e.members) :
    (∃ c, e.contentType = some c ∧ m = contentTypeKey ++ (c ++ ['\''])) ∨
      ∃ k, e.token = some k ∧ m = tokenKey ++ (k ++ ['\'']) := by
  simp only [members, List.mem_append, Option.mem_toList,
    Option.map_eq_some_iff] at h
  rcases h with ⟨c, hc, rfl⟩ | ⟨k, hk, rfl⟩
  · exact .inl ⟨c, hc, rfl⟩
  · exact .inr ⟨k, hk, rfl⟩

theorem mem_join {sep : Text} {parts : List Text} {c : Char} (h : c ∈ join sep parts) :
    c ∈ sep ∨ ∃ part ∈ parts, c ∈ part := by
  induction parts with
  | nil => cases h
  | cons part parts ih =>
    cases parts with
    | nil => exact .inr ⟨part, by simp, by simpa [join] using h⟩
    | cons next parts =>
      have hcons : join sep (part :: next :: parts) = part ++ sep ++ join sep (next :: parts) := by
        simp [join, List.intercalate_cons_cons]
      rw [hcons, List.mem_append, List.mem_append] at h
      rcases h with (h | h) | h
      · exact .inr ⟨part, by simp, h⟩
      · exact .inl h
      · rcases ih h with h | ⟨p, hp, h⟩
        · exact .inl h
        · exact .inr ⟨p, .tail _ hp, h⟩

theorem not_mem_options {e : Test} {c : Char} (hc : c = '(' ∨ c = ')') : c ∉ e.options := by
  have hfixed : c ∉ contentTypeKey ∧ c ∉ tokenKey ∧ c ∉ headersKey ∧ c ∉ dataKey := by
    rcases hc with rfl | rfl <;> decide
  have hmarks : c ≠ '{' ∧ c ≠ '}' ∧ c ≠ ' ' ∧ c ≠ ',' ∧ c ≠ '\'' := by
    rcases hc with rfl | rfl <;> decide
  have hjoin : c ∉ join [',', ' '] e.members := by
    intro h
    rcases mem_join h with h | ⟨m, hm, h⟩
    · simp [hmarks] at h
    · rcases mem_members hm with ⟨v, hv, rfl⟩ | ⟨k, hk, rfl⟩
      · simp [hfixed, hmarks, (e.plain_contentType v hv).1.not_mem hc] at h
      · simp [hfixed, hmarks, (e.plain_token k hk).1.not_mem hc] at h
  have hheaders : c ∉ e.headersEntry := by
    rw [headersEntry]
    split
    · simp
    · simp [headersBlock, hfixed, hmarks, hjoin]
  simp [options, body, hfixed, hmarks, hheaders, e.plain_payload.1.not_mem hc]

end Test
end Script

structure Script where
  group : Text
  tests : List Script.Test
  ending : Gap
  final : Gap
  plain_group : Plain group ∧ group ≠ [] ∧ '\n' ∉ group

namespace Script

def opening (s : Script) : Text :=
  describeWord ++ '(' :: '\'' :: (s.group ++ '\'' :: ',' :: ' ' :: '(' :: groupOpen)

def render (s : Script) : Text :=
  s.opening ++ (s.tests.flatMap Test.render ++ (s.ending.text ++ (blockClose ++ s.final.text)))

end Script
end EndpointManifest
