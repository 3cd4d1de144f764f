import EndpointManifest.Json.Basic
import EndpointManifest.Schema.Binary64

/-!
Raw data, before it is known to fit a schema: what a settings file holds, or what a caller hands
over.
-/

namespace EndpointManifest

inductive Datum where
  | null
  | bool (b : Bool)
  | int (n : Int)
  | real (x : Binary64)
  | text (t : Text)
  /-- A text with surrogates that belong to no character. -/
  | brokenText
  | bytes (octets : List UInt8)
  | list (items : List Datum)
  | mapping (entries : List (Datum × Datum))
  /-- A date or time. -/
  | moment
  deriving Repr, Inhabited

namespace Datum

def asText? : Datum → Option Text
  | .text t => some t
  | _ => none

def isText : Datum → Bool
  | .text _ | .brokenText => true
  | _ => false

mutual

def ofJson : Json → Datum
  | .null => .null
  | .bool b => .bool b
  | .int n => .int n
  | .str s => .text s
  | .arr items => .list (ofItems items)
  | .obj members => .mapping (ofMembers members)

def ofItems : List Json → List Datum
  | [] => []
  | item :: items => ofJson item :: ofItems items

def ofMembers : List (Text × Json) → List (Datum × Datum)
  | [] => []
  | (key, value) :: members => (.text key, ofJson value) :: ofMembers members

end

/-- The value under a text key; of several equal keys the last one counts. -/
def entry? (name : Text) (entries : List (Datum × Datum)) : Option Datum :=
  entries.reverse.findSome? fun (key, value) =>
    match key with
    | .text t => if t = name then some value else none
    | _ => none

def number? : Datum → Option Int
  | .bool b => some (if b then 1 else 0)
  | .int n => some n
  | .real x => x.toInt?
  | _ => none

def isSameKey (a b : Datum) : Bool :=
  match a, b with
  | .null, .null => true
  | .text s, .text t => s = t
  | .bytes s, .bytes t => s = t
  | .real x, .real y => x = y || (x.toInt?.isSome && x.toInt? = y.toInt?)
  | a, b => a.number?.isSome && a.number? = b.number?

def distinct (keys : List Datum) : List Datum :=
  keys.foldl (fun kept key => if kept.any (isSameKey · key) then kept else kept ++ [key]) []

/-- Whether a value counts as absent where a name is wanted: null, false, zero, and all that is
empty. -/
def isBlank : Datum → Bool
  | .null => true
  | .bool b => !b
  | .int n => n == 0
  | .real (.finite _ significand _) => significand == 0
  | .real _ => false
  | .text t => t.isEmpty
  | .brokenText => false
  | .bytes octets => octets.isEmpty
  | .list items => items.isEmpty
  | .mapping entries => entries.isEmpty
  | .moment => false

end Datum
end EndpointManifest
