import EndpointManifest.Assoc
import EndpointManifest.Endpoint.Check
import EndpointManifest.Text.LetterCase

/-!
A draft of an endpoint, filled in step by step. Nothing is checked before it is built.
-/

namespace EndpointManifest

open Text

structure Draft where
  method : Text
  url : Datum
  name : Datum := .null
  headers : List (Text × Datum) := []
  body : Datum := .null
  auth : Datum := .null
  status : Datum := .null
  substring : Datum := .null
  deriving Repr

namespace Draft

/-- A new draft; the method is written in capitals. -/
def start (method url : Text) : Draft := { method := upper method, url := .text url }

/-- Sets a header; one that is there keeps its place. -/
def setHeader (d : Draft) (key : Text) (value : Datum) : Draft :=
  { d with headers := Assoc.insert key value d.headers }

/-- Sets what is expected of the response; null leaves the former value. -/
def setExpectation (d : Draft) (status substring : Datum) : Draft :=
  { d with
    status := match status with | .null => d.status | s => s
    substring := match substring with | .null => d.substring | s => s }

def displayName (d : Draft) : Datum :=
  if d.name.isBlank then .text (d.method ++ ' ' :: (d.url.asText?.getD [])) else d.name

/-- Checks the draft; the faults of the expectation come alone and first. -/
def build (d : Draft) : Checked Endpoint :=
  let expected : RawFields := fun field =>
    if field = "status".toList then some d.status
    else if field = "substring".toList then some d.substring
    else none
  match Expectation.ofRaw expected with
  | .faulty faults => .faulty faults
  | .valid expectation =>
    let fields : List (Text × Datum) :=
      [("name".toList, d.displayName), ("method".toList, .text d.method), ("url".toList, d.url),
       ("headers".toList, if d.headers.isEmpty then .null
          else .mapping (d.headers.map fun (k, v) => (.text k, v))),
       ("body".toList, d.body), ("auth".toList, d.auth)]
    (fun e : Endpoint => { e with expectation }) <$> Endpoint.ofRaw (fields.lookup ·)

end Draft
end EndpointManifest
