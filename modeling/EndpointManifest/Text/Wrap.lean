import EndpointManifest.Text.CellWidth

/-!
Setting a text in lines of a given width. Lines are broken between words; a word that is wider than
a line is cut and ends in an ellipsis.
-/

namespace EndpointManifest.Text

def isLineBreak (c : Char) : Bool :=
  let n := c.toNat
  (0xA ≤ n && n ≤ 0xD) || (0x1C ≤ n && n ≤ 0x1E) || n == 0x85 || n == 0x2028 || n == 0x2029

def naturalWidth (t : Text) : Nat := ((splitWhere isLineBreak t).map cellWidth).foldl max 0

def tabWidth : Nat := 8

def toTabStop (part : Text) : Text :=
  let t := part ++ [' ']
  t ++ spaces ((tabWidth - cellWidth t % tabWidth) % tabWidth)

def expandTabs (t : Text) : Text :=
  let parts := splitOn '\t' t
  parts.dropLast.flatMap toTabStop ++ parts.getLastD []

def splitBeforeWords : Text → List Text
  | [] => []
  | [c] => [[c]]
  | c :: d :: rest =>
    match splitBeforeWords (d :: rest) with
    | [] => [[c]]
    | part :: parts =>
      if isBlank c && !isBlank d then [c] :: part :: parts else (c :: part) :: parts

/-- The words of a text, each with the blanks behind it, the first one also with those before it. -/
def wordsWithBlanks (t : Text) : List Text :=
  match splitBeforeWords t with
  | first :: second :: rest =>
    if first.all isBlank then (first ++ second) :: rest else first :: second :: rest
  | parts => parts

/-- Puts words into lines: `line` holds what stands in the current one and takes `used` cells. Only
the blanks behind a word may go beyond the width. -/
def fillLines (width used : Nat) (line : Text) : List Text → List Text
  | [] => [line]
  | word :: rest =>
    if line.isEmpty || used + cellWidth (dropTrailing isBlank word) ≤ width then
      fillLines width (used + cellWidth word) (line ++ word) rest
    else line :: fillLines width (cellWidth word) word rest

def dropBlanksAtEnd (n : Nat) (t : Text) : Text :=
  let kept := (dropTrailing isBlank t).length
  t.take (max kept (t.length - n))

def cutLine (width : Nat) (line : Text) : Text :=
  if cellWidth line ≤ width then line else takeCells (width - 1) line ++ ['…']

def setLine (width : Nat) (alignsRight : Bool) (line : Text) : Text :=
  let line := dropBlanksAtEnd (line.length - width) line
  if alignsRight then padLeft width (cutLine width (dropTrailing isBlank line))
  else padRight width (cutLine width line)

def setLines (width : Nat) (alignsRight : Bool) (t : Text) : List Text :=
  (splitOn '\n' t).flatMap fun line =>
    (fillLines width 0 [] (wordsWithBlanks (expandTabs line))).map (setLine width alignsRight)

end EndpointManifest.Text
