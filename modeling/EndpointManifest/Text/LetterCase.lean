import EndpointManifest.Text.CharClass
import EndpointManifest.Text.Table.LetterCase

/-!
Letter case: the full mappings `upper` and `lower` of a text, and `sameLetter`, the comparison of
two characters that disregards case.
-/

namespace EndpointManifest.Text

def Table.CaseRun.image? (run : Table.CaseRun) (n : Nat) : Option Nat :=
  if run.first ≤ n && n ≤ run.last && (n - run.first) % run.step == 0 then
    some (n + run.offset).toNat
  else none

/-- What a character beyond ASCII maps to: a row of `specials`, or of `runs`, or itself. -/
def mapBeyondAscii (runs : List Table.CaseRun) (specials : List (Nat × List Nat)) (c : Char) :
    Text :=
  match specials.lookup c.toNat with
  | some ns => ns.map Char.ofNat
  | none => [Char.ofNat ((runs.findSome? (·.image? c.toNat)).getD c.toNat)]

def upperChar (c : Char) : Text :=
  if c.toNat < 128 then [if isAsciiLower c then Char.ofNat (c.toNat - 32) else c]
  else mapBeyondAscii Table.upperRuns Table.upperSpecials c

def upper (t : Text) : Text := t.flatMap upperChar

/-- The small letters of a character on its own; a capital sigma has its ordinary small form. -/
def lowerChar (c : Char) : Text :=
  if c.toNat < 128 then [if isAsciiUpper c then Char.ofNat (c.toNat + 32) else c]
  else mapBeyondAscii Table.lowerRuns Table.lowerSpecials c

def isCaseIgnorable (c : Char) : Bool := Table.caseIgnorable.contains c.toNat

def isCased (c : Char) : Bool :=
  if c.toNat < 128 then isAsciiLetter c else Table.cased.contains c.toNat

def meetsCased (t : Text) : Bool := (t.find? fun c => !isCaseIgnorable c).any isCased

/-- A capital sigma that ends a word (a letter with case before it, none after) becomes the final
small sigma. `before` holds the characters already passed, nearest first. -/
def lowerFrom (before : Text) : Text → Text
  | [] => []
  | c :: rest =>
    let small :=
      if c == 'Σ' then if meetsCased before && !meetsCased rest then ['ς'] else ['σ']
      else lowerChar c
    small ++ lowerFrom (c :: before) rest

def lower (t : Text) : Text := lowerFrom [] t

/-- Small letters that differ and yet are the same letter, as the long s and the s. -/
def letterVariants : List (List Nat) :=
  [[0x69, 0x131], [0x73, 0x17F], [0xB5, 0x3BC], [0x345, 0x3B9, 0x1FBE], [0x390, 0x1FD3],
   [0x3B0, 0x1FE3], [0x3B2, 0x3D0], [0x3B5, 0x3F5], [0x3B8, 0x3D1], [0x3BA, 0x3F0],
   [0x3C0, 0x3D6], [0x3C1, 0x3F1], [0x3C2, 0x3C3], [0x3C6, 0x3D5], [0x432, 0x1C80],
   [0x434, 0x1C81], [0x43E, 0x1C82], [0x441, 0x1C83], [0x442, 0x1C84, 0x1C85], [0x44A, 0x1C86],
   [0x463, 0x1C87], [0x1C88, 0xA64B], [0x1E61, 0x1E9B], [0xFB05, 0xFB06]]

/-- The small letter that stands for a character and all its case variants. -/
def letterKey (c : Char) : Nat :=
  let small := ((lowerChar c).head?.getD c).toNat
  match letterVariants.find? (·.contains small) with
  | some (key :: _) => key
  | _ => small

def sameLetter (a b : Char) : Bool := letterKey a == letterKey b

/-- An ASCII letter, or one of the four characters beyond ASCII that are the same letter as one. -/
def isLatinLetter (c : Char) : Bool :=
  isAsciiLetter c || c == 'ſ' || c == '\u212A' || c == 'ı' || c == 'İ'

def isLatinNameStart (c : Char) : Bool := isLatinLetter c || c == '_' || c == '$'

end EndpointManifest.Text
