import EndpointManifest.Text.Blank

/-!
The five HTTP methods that an endpoint can have.
-/

namespace EndpointManifest

inductive Method where
  | get | post | put | patch | delete
  deriving DecidableEq, Repr

namespace Method

def all : List Method := [.get, .post, .put, .patch, .delete]

def name : Method → Text
  | .get => "GET".toList
  | .post => "POST".toList
  | .put => "PUT".toList
  | .patch => "PATCH".toList
  | .delete => "DELETE".toList

/-- The method as the name of a client's function. -/
def verb : Method → Text
  | .get => "get".toList
  | .post => "post".toList
  | .put => "put".toList
  | .patch => "patch".toList
  | .delete => "delete".toList

def ofName? (t : Text) : Option Method := all.find? (·.name = t)

end Method
end EndpointManifest
