import EndpointManifest.Json.Basic
import EndpointManifest.Method

/-!
An endpoint: one request that a spec sends, with what was recovered of its headers, authorisation,
body and expected response.
-/

namespace EndpointManifest

structure Expectation where
  status : Option Nat := none
  substring : Option Text := none
  deriving DecidableEq, Repr

namespace Expectation

def isEmpty (e : Expectation) : Bool := e.status.isNone && e.substring.isNone

def toJson (e : Expectation) : Json :=
  .obj <| (e.status.map fun n => ("status".toList, Json.int n)).toList ++
    (e.substring.map fun s => ("text".toList, Json.str s)).toList

end Expectation

inductive Auth where
  | bearer
  deriving DecidableEq, Repr

def Auth.name : Auth → Text
  | .bearer => "bearer".toList

structure Endpoint where
  name : Text
  method : Method
  url : Text
  headers : List (Text × Text) := []
  auth : Option Auth := none
  expectation : Expectation := {}
  body : Option Text := none
  deriving DecidableEq, Repr

namespace Endpoint

/-- The members in their fixed order. What was not recovered, and an empty body, has none. -/
def toJson (e : Endpoint) : Json :=
  .obj <|
    [("name".toList, .str e.name), ("method".toList, .str e.method.name),
      ("url".toList, .str e.url)] ++
    (if e.headers.isEmpty then []
      else [("headers".toList, .obj (e.headers.map fun (k, v) => (k, .str v)))]) ++
    (e.auth.map fun a => ("auth".toList, Json.str a.name)).toList ++
    (if e.expectation.isEmpty then [] else [("expect".toList, e.expectation.toJson)]) ++
    match e.body with
    | none | some [] => []
    | some body => [("body".toList, .str body)]

end Endpoint
end EndpointManifest
