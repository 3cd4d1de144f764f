import EndpointManifest.Discovery
import EndpointManifest.Endpoint.Draft
import EndpointManifest.Json.Reader
import EndpointManifest.Main
import EndpointManifest.Manifest.Summary
import EndpointManifest.Output
import EndpointManifest.Settings.Load
import EndpointManifest.Proofs.Text.LetterCase
import EndpointManifest.Proofs.Call.Pattern
import EndpointManifest.Proofs.Text.Search
import EndpointManifest.Proofs.Text.Words
import EndpointManifest.Proofs.Recovered
import EndpointManifest.Proofs.WellFormed
import EndpointManifest.Proofs.Schema.Fault
import EndpointManifest.Proofs.Endpoint.Draft
import EndpointManifest.Proofs.Failing
import EndpointManifest.Proofs.Call.MethodField
import EndpointManifest.Proofs.Delimiter
import EndpointManifest.Proofs.Options.Scan
import EndpointManifest.Proofs.Options.Payload
import EndpointManifest.Proofs.Call.Head
import EndpointManifest.Proofs.Script.Basic
import EndpointManifest.Proofs.Script.Find
import EndpointManifest.Proofs.Script.Runs
import EndpointManifest.Proofs.Call.Bound
import EndpointManifest.Proofs.Options.Value
import EndpointManifest.Proofs.Script.Calls
import EndpointManifest.Proofs.Script.Fields
import EndpointManifest.Proofs.Script.RoundTrip
import EndpointManifest.Proofs.Manifest.Steps
import EndpointManifest.Proofs.Text.Number
import EndpointManifest.Proofs.Json.Fits
import EndpointManifest.Proofs.Json.RoundTrip
import EndpointManifest.Proofs.Endpoint.Rebuild
import EndpointManifest.Proofs.Manifest.RoundTrip
import EndpointManifest.Proofs.Call.Local
import EndpointManifest.Proofs.Locality
import EndpointManifest.Proofs.Shapes
import EndpointManifest.Proofs.File.Path
import EndpointManifest.Proofs.File.Tree
import EndpointManifest.Proofs.File.Disk
import EndpointManifest.Proofs.File.Write
import EndpointManifest.Proofs.Output
import EndpointManifest.Proofs.Discovery
import EndpointManifest.Proofs.Settings.Load
import EndpointManifest.Proofs.CommandLine.Request
import EndpointManifest.Proofs.CommandLine.Collect
import EndpointManifest.Proofs.CommandLine.Rerun
import EndpointManifest.Proofs.Settings.Flags
import EndpointManifest.Proofs.CommandLine.Frame
import EndpointManifest.Manifest.Pool
import EndpointManifest.Proofs.Call.Opening
import EndpointManifest.Proofs.Manifest.Pool
import EndpointManifest.Proofs.File.Listing
import EndpointManifest.Proofs.Discovery.Depth
import EndpointManifest.Proofs.SpecFiles
import EndpointManifest.Proofs.Json.Printable
import EndpointManifest.Proofs.File.Location
import EndpointManifest.Proofs.Manifest.Files
import EndpointManifest.Proofs.Manifest.Printed
import EndpointManifest.Proofs.CommandLine.Inspect
import EndpointManifest.Proofs.Call.Merge
import EndpointManifest.Proofs.Options.Body
import EndpointManifest.Proofs.Options.WholeKey
import EndpointManifest.Proofs.Options.HeaderEntries
import EndpointManifest.Proofs.Options.HeaderFields
import EndpointManifest.Proofs.Call.NameEdge
import EndpointManifest.Proofs.Call.Arguments
import EndpointManifest.Proofs.Settings.Field
import EndpointManifest.Proofs.Settings.Reported
import EndpointManifest.Proofs.Settings.Precedence
import EndpointManifest.Proofs.Label.Nearest
import EndpointManifest.Proofs.Text.Language
import EndpointManifest.Proofs.Assertion.Language
import EndpointManifest.Proofs.Assertion.Subject
import EndpointManifest.Proofs.Assertion.Reading
import EndpointManifest.Proofs.Assertion.Apart
import EndpointManifest.Proofs.Assertion.Earliest
import EndpointManifest.Proofs.Assertion.Widening
import EndpointManifest.Proofs.File.Failure
import EndpointManifest.Proofs.Output.Clean
import EndpointManifest.Proofs.Delimiter.Escape
import EndpointManifest.Proofs.Label.Literal
import EndpointManifest.Proofs.Discovery.Ascending
import EndpointManifest.Proofs.Call.Clients
import EndpointManifest.Proofs.Url.Parts
import EndpointManifest.Proofs.Spec.Name
import EndpointManifest.Proofs.FeatureName
import EndpointManifest.Proofs.Text.Slice
import EndpointManifest.Proofs.Delimiter.Shortest
import EndpointManifest.Proofs.Options.Passage
import EndpointManifest.Proofs.Text.Layout
import EndpointManifest.Proofs.Options.Layout
