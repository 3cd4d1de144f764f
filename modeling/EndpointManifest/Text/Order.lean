import EndpointManifest.Text.Blank

/-!
The order of texts by code points, and sorting by it.
-/

namespace EndpointManifest.Text

/-- A text comes before every longer one that it starts. -/
def le : Text → Text → Bool
  | [], _ => true
  | _ :: _, [] => false
  | a :: s, b :: t => if a = b then le s t else a.toNat < b.toNat

def sorted (texts : List Text) : List Text := texts.mergeSort le

def sortedByKey {α : Type} (entries : List (Text × α)) : List (Text × α) :=
  entries.mergeSort fun a b => le a.1 b.1

end EndpointManifest.Text
