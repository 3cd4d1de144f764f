/-!
Texts are lists of characters, so that positions and lengths count code points. This module has the
blank characters and what is done with runs of them: `trim`, `collapseBlanks`, `words`.
-/

namespace EndpointManifest

/-- A text is the list of its characters. -/
abbrev Text := List Char

namespace Text

/-- White space in the wide sense: the ASCII blanks with the four separators U+001C to U+001F, next
line, and the Unicode spaces. The zero-width space and the byte-order mark are not blank. -/
def isBlank (c : Char) : Bool :=
  let n := c.toNat
  (0x9 ≤ n && n ≤ 0xD) || (0x1C ≤ n && n ≤ 0x20) || n == 0x85 || n == 0xA0 || n == 0x1680 ||
    (0x2000 ≤ n && n ≤ 0x200A) || n == 0x2028 || n == 0x2029 || n == 0x202F || n == 0x205F ||
    n == 0x3000

/-- The blanks that may stand around a number: white space without the four separators. -/
def isNumberBlank (c : Char) : Bool := isBlank c && !(0x1C ≤ c.toNat && c.toNat ≤ 0x1F)

def skipBlanks (t : Text) : Text := t.dropWhile isBlank

def dropTrailing (p : Char → Bool) (t : Text) : Text := (t.reverse.dropWhile p).reverse

def trim (t : Text) : Text := dropTrailing isBlank (skipBlanks t)

def collapseBlanks : Text → Text
  | [] => []
  | c :: rest =>
    if isBlank c then
      match rest with
      | [] => [' ']
      | d :: _ => if isBlank d then collapseBlanks rest else ' ' :: collapseBlanks rest
    else c :: collapseBlanks rest

/-- The parts between the elements that satisfy `p`; a list without any is one part. -/
def splitWhere {α : Type} (p : α → Bool) : List α → List (List α)
  | [] => [[]]
  | c :: rest =>
    if p c then [] :: splitWhere p rest
    else match splitWhere p rest with
      | [] => [[c]]
      | part :: parts => (c :: part) :: parts

def splitOn (sep : Char) (t : Text) : List Text := splitWhere (· = sep) t

def words (t : Text) : List Text := (splitWhere isBlank t).filter (!·.isEmpty)

def join (sep : Text) (parts : List Text) : Text := List.intercalate sep parts

def startsWith (start : Text) (t : Text) : Bool := start.isPrefixOf t

def endsWith (ending : Text) (t : Text) : Bool := ending.reverse.isPrefixOf t.reverse

def ofNat (n : Nat) : Text := Nat.toDigits 10 n

end Text
end EndpointManifest
