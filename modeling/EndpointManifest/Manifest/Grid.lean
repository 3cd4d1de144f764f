import EndpointManifest.Manifest.Basic
import EndpointManifest.Text.Grid
import EndpointManifest.Text.Markup
import EndpointManifest.Text.Order

/-!
The table of a manifest's features. Their names are read as markup.
-/

namespace EndpointManifest.Manifest

open Text

def gridColumns : List Column :=
  [{ heading := "Feature".toList }, { heading := "Endpoints".toList, alignsRight := true },
    { heading := "Methods".toList }]

def methodNames (endpoints : List Endpoint) : List Text :=
  sorted ((endpoints.map fun e => e.method.name).eraseDups)

/-- The row of a feature, and the tags in the feature's name. -/
def gridRow (feature : Text × List Endpoint) :
    Except Markup.Error (List Text × List Markup.Opening) :=
  (Markup.read feature.1).map fun (name, tags) =>
    ([name, ofNat feature.2.length, join ", ".toList (methodNames feature.2)], tags)

/-- The table. All names are read before any of their styles is looked at. -/
def grid (m : Manifest) : Except Markup.Error Grid := do
  let rows ← m.features.mapM gridRow
  if rows.all fun (_, tags) => tags.all (·.isShowable) then
    return {
      title := "Endpoints by feature".toList
      columns := gridColumns
      rows := rows.map (·.1) }
  else throw .colour

end EndpointManifest.Manifest
