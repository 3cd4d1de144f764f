/-!
Association lists in the order in which their keys first came. Each key stands once in a list that
`insert` and `modify` built from the empty one.
-/

namespace EndpointManifest.Assoc

variable {κ α : Type} [BEq κ]

def get? (key : κ) (entries : List (κ × α)) : Option α := entries.lookup key

/-- Changes the value of `key` where it stands, or adds what `f` makes of nothing at the end. -/
def modify (f : Option α → α) (key : κ) : List (κ × α) → List (κ × α)
  | [] => [(key, f none)]
  | (k, a) :: rest => if k == key then (k, f (some a)) :: rest else (k, a) :: modify f key rest

/-- A key that is there keeps its place and takes the new value; a new key goes to the end. -/
def insert (key : κ) (value : α) (entries : List (κ × α)) : List (κ × α) :=
  modify (fun _ => value) key entries

def ofList (pairs : List (κ × α)) : List (κ × α) :=
  pairs.foldl (fun entries (k, a) => insert k a entries) []

end EndpointManifest.Assoc
