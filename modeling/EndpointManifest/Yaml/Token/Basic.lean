import EndpointManifest.Yaml.Error

/-!
The tokens of a YAML text.
-/

namespace EndpointManifest.Yaml

inductive Directive where
  | version (major : Nat)
  | tag (handle : Text) (stem : Text)
  | other
  deriving DecidableEq, Repr

inductive Token where
  | directive (d : Directive)
  | documentStart | documentEnd | streamEnd
  | blockSequenceStart | blockMappingStart | blockEnd
  | flowSequenceStart | flowSequenceEnd | flowMappingStart | flowMappingEnd
  | blockEntry | flowEntry | key | value
  | alias (name : Text)
  | anchor (name : Text)
  /-- A tag with a handle stands for the handle's stem and the suffix. -/
  | tag (handle : Option Text) (suffix : Text)
  | scalar (content : Content) (plain : Bool)
  deriving DecidableEq, Repr

/-- The tokens of a text. Unless they end with the end of the stream, there is no next one. -/
structure TokenStream where
  tokens : List Token
  /-- Why there is none. -/
  failure : Error := .malformed
  deriving Repr

end EndpointManifest.Yaml
