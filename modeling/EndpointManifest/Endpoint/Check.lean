import EndpointManifest.Endpoint.Basic
import EndpointManifest.Schema.Check

/-!
Raw data checked as an endpoint or as an expectation.
-/

namespace EndpointManifest

open Text

/-- The raw value of each field by its name; a field may be absent. -/
abbrev RawFields := Text → Option Datum

namespace RawFields

def required {α : Type} (raw : RawFields) (name : Text) (check : Datum → Checked α) : Checked α :=
  match raw name with
  | none => .faulty [⟨[.field name], .missing⟩]
  | some d => (check d).under (.field name)

def optional {α : Type} (raw : RawFields) (name : Text) (check : Datum → Checked α) :
    Checked (Option α) :=
  match raw name with
  | none | some .null => .valid none
  | some d => (some <$> check d).under (.field name)

end RawFields

def checkNonEmpty (d : Datum) : Checked Text :=
  .ofExcept do
    let t ← d.toText
    if t.isEmpty then throw .stringTooShort else return t

namespace Expectation

def checkStatus (d : Datum) : Checked Nat :=
  .ofExcept do
    let n ← d.toInt
    if n < 100 then throw .greaterThanEqual
    else if 599 < n then throw .lessThanEqual
    else return n.toNat

def ofRaw (raw : RawFields) : Checked Expectation :=
  Expectation.mk
    <$> raw.optional "status".toList checkStatus
    <*> raw.optional "substring".toList (.ofExcept ·.toText)

def ofDatum : Datum → Checked Expectation
  | .mapping entries => ofRaw (Datum.entry? · entries)
  | _ => .faulty [⟨[], .modelType⟩]

end Expectation

namespace Endpoint

def checkMethod (d : Datum) : Checked Method :=
  match d.asText?.bind Method.ofName? with
  | some m => .valid m
  | none => .faulty [⟨[], .literalError⟩]

def checkAuth (d : Datum) : Checked Auth :=
  if d.asText? = some Auth.bearer.name then .valid .bearer else .faulty [⟨[], .literalError⟩]

/-- A header's value is checked under the header's name. -/
def checkHeader (entry : Datum × Datum) : Checked (Text × Text) :=
  let name := entry.1.asText?.getD []
  (Prod.mk name <$> Checked.ofExcept entry.2.toText).under (.field name)

def checkEntries : List (Datum × Datum) → Checked (List (Text × Text))
  | [] => .valid []
  | entry :: rest => List.cons <$> checkHeader entry <*> checkEntries rest

def checkHeaders : Datum → Checked (List (Text × Text))
  | .mapping entries => checkEntries entries
  | _ => .faulty [⟨[], .dictType⟩]

/-- The faults come in the order of the fields: name, method, URL, headers, body, authorisation,
expectation. -/
def ofRaw (raw : RawFields) : Checked Endpoint :=
  (fun name method url headers body auth expectation =>
    { name, method, url, headers := headers.getD [], body, auth, expectation })
    <$> raw.required "name".toList checkNonEmpty
    <*> raw.required "method".toList checkMethod
    <*> raw.required "url".toList checkNonEmpty
    <*> raw.optional "headers".toList checkHeaders
    <*> raw.optional "body".toList (.ofExcept ·.toText)
    <*> raw.optional "auth".toList checkAuth
    <*> (match raw "expectation".toList with
      | none => .valid {}
      | some d => (Expectation.ofDatum d).under (.field "expectation".toList))

end Endpoint
end EndpointManifest
