import EndpointManifest.Text.LetterCase
import EndpointManifest.Text.Quoted

/-!
What a YAML scalar holds. An escape by number can put a surrogate between its characters, which no
text can hold; such a content has no text.
-/

namespace EndpointManifest.Yaml

open Text

inductive CodePoint where
  | char (c : Char)
  | surrogate (n : Nat)
  deriving DecidableEq, Repr

namespace CodePoint

def ofNat (n : Nat) : CodePoint :=
  if 0xD800 ≤ n && n ≤ 0xDFFF then .surrogate n else .char (Char.ofNat n)

def char? : CodePoint → Option Char
  | .char c => some c
  | .surrogate _ => none

end CodePoint

abbrev Content := List CodePoint

namespace Content

def ofText (t : Text) : Content := t.map .char

def text? (c : Content) : Option Text := c.mapM CodePoint.char?

/-- A text of the same length, in which a question mark stands for a surrogate. -/
def legible (c : Content) : Text := c.map fun point => point.char?.getD '?'

def quoted (c : Content) : Text :=
  let q := quoteFor (c.filterMap CodePoint.char?)
  let shown : CodePoint → Text
    | .char ch => quoteChar q ch
    | .surrogate n => ['\\', 'u'] ++ hexPadded 4 n
  [q] ++ c.flatMap shown ++ [q]

/-- A surrogate has no case, and no word goes across it. -/
def lowerFrom (run : Text) : Content → Content
  | [] => ofText (Text.lower run.reverse)
  | .char c :: rest => lowerFrom (c :: run) rest
  | .surrogate n :: rest => ofText (Text.lower run.reverse) ++ .surrogate n :: lowerFrom [] rest

def lower (c : Content) : Content := lowerFrom [] c

end Content
end EndpointManifest.Yaml
