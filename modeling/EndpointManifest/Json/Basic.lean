import EndpointManifest.Text.Blank

/-!
JSON values whose numbers are whole. The members of an object keep their order.
-/

namespace EndpointManifest

inductive Json where
  | null
  | bool (b : Bool)
  | int (n : Int)
  | str (s : Text)
  | arr (items : List Json)
  | obj (members : List (Text × Json))
  deriving Repr, Inhabited

namespace Json

def member? (name : Text) : Json → Option Json
  | .obj members => members.lookup name
  | _ => none

end Json
end EndpointManifest
