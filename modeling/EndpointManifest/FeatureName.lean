import EndpointManifest.Text.Reader

/-!
Feature names taken from file names: the suffix is cut off, and a camel-case name may be split into
words.
-/

namespace EndpointManifest.FeatureName

open Text

/-- A space between every two neighbours that `p` and `q` describe. -/
def spaceBetween (p q : Char → Bool) : Text → Text
  | [] => []
  | [c] => [c]
  | c :: d :: rest =>
    if p c && q d then c :: ' ' :: spaceBetween p q (d :: rest)
    else c :: spaceBetween p q (d :: rest)

def isDecimalDigit (c : Char) : Bool := (digitValue? c).isSome

/-- `WidgetAdmin_v2` becomes `Widget Admin v 2`. -/
def humanize (name : Text) : Text :=
  let spaced :=
    spaceBetween isAsciiLetter isDecimalDigit (spaceBetween isAsciiLower isAsciiUpper name)
  trim (collapseBlanks (spaced.map fun c => if c = '_' then ' ' else c))

/-- Cuts `.spec`, `.test`, `.specs` or `.tests` off the end of a line, in any letter case; the
line's end stays. -/
def dropSpecSuffix (name : Text) : Text :=
  let (line, lineEnd) : Text × Text :=
    match name.reverse with
    | '\n' :: rest => (rest, ['\n'])
    | back => (back, [])
  let cut? (back : Text) : Option Text :=
    [".spec", ".specs", ".test", ".tests"].findSome? fun s => afterAnyCase? s.toList.reverse back
  match cut? line with
  | some back => back.reverse ++ lineEnd
  | none => name

/-- Cuts off the first of the suffixes that the name ends with. An empty suffix leaves nothing. -/
def dropSuffix (suffixes : List Text) (base : Text) : Text :=
  match suffixes.find? (endsWith · base) with
  | some [] => []
  | some suffix => base.take (base.length - suffix.length)
  | none => base

def ofBase (base : Text) (suffixes : List Text) (humanized : Bool) : Text :=
  let name := trim (dropSpecSuffix (dropSuffix suffixes base))
  if humanized then humanize name else name

end EndpointManifest.FeatureName
