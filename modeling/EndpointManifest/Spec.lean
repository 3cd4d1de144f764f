import EndpointManifest.Assertion
import EndpointManifest.Call.Find
import EndpointManifest.Endpoint.Basic
import EndpointManifest.Label
import EndpointManifest.Options.Header
import EndpointManifest.Url.Parts

/-!
From the source of a spec to its endpoints: one endpoint for each call, in the order of the calls. A
call from which nothing more can be recovered still gives its method and URL.
-/

namespace EndpointManifest

open Text

/-- What a source is read with: the clients whose calls send requests, and how far after a call its
assertions are looked for. -/
structure Reading where
  clients : List Text
  window : Nat
  deriving Repr

/-- The endpoints of one spec file, and the group that its tests stand in. -/
structure Spec where
  path : Text
  group : Option Text := none
  endpoints : List Endpoint := []
  deriving Repr

namespace Spec

open Url (UrlError)

/-- The last path segment of an absolute URL; nothing for other URLs and for an empty path. -/
def lastSegment? (url : Text) : Except UrlError (Option Text) := do
  let parts ← Url.parts url
  return if parts.scheme.isEmpty || parts.authority.isEmpty then none
    else ((splitOn '/' parts.path).filter (!·.isEmpty)).getLast?

/-- The title of the test around the call, if it has one that is not empty; else the method with the
last segment of the URL, or with the whole URL. -/
def nameFor (method url : Text) (title : Option Text) : Except UrlError Text :=
  match title with
  | some (c :: rest) => .ok (c :: rest)
  | _ => do return method ++ ' ' :: ((← lastSegment? url).getD url)

/-- The headers that are sent for a recovered content type. A GET sends none. -/
def headersFor (method : Method) (contentType : Option Text) : List (Text × Text) :=
  match contentType with
  | some (c :: rest) => if method = .get then [] else [("Content-Type".toList, c :: rest)]
  | _ => []

def expectationFor (source : Text) (call : Call) (window : Nat) : Expectation :=
  match call.closeIndex with
  | none => {}
  | some close =>
    let asserted := Asserted.ofWindow ((source.drop (close + 1)).take window)
    ⟨asserted.status, asserted.substring⟩

def endpointFor (source : Text) (labels : LabelIndex) (window : Nat) (call : Call) :
    Except UrlError Endpoint := do
  let name ← nameFor call.method.name call.url (labels.nearest? call.offset)
  let fields := Options.fields call.options
  return {
    name
    method := call.method
    url := call.url
    headers := headersFor call.method fields.contentType
    auth := if fields.bearer then some .bearer else none
    expectation := expectationFor source call window
    body := fields.body }

/-- Reads a source. The only failure is a URL that is no URL, in a call without title. -/
def ofSource (reading : Reading) (source : Text) : Except UrlError Spec := do
  let labels := LabelIndex.ofSource source
  let endpoints ← (Call.findCalls source reading.clients).mapM
    (endpointFor source labels reading.window)
  return { path := [], group := labels.outermost?, endpoints }

end Spec
end EndpointManifest
