import EndpointManifest.Yaml.Cursor
import EndpointManifest.Yaml.Error

/-!
Reading scalars: plain ones, quoted ones, and block scalars, with the folding of their lines.
-/

namespace EndpointManifest.Yaml.Scalar

open Text

/-- Lines that end with a break are joined by a space where nothing but that break stands between
them; else the further breaks remain. -/
def folded (first : Char) (further : Text) : Text :=
  if first ≠ '\n' then first :: further
  else if further.isEmpty then [' '] else further

/-! ## Plain scalars -/

def isFlowMark (c : Char) : Bool := [',', '[', ']', '{', '}'].contains c

/-- How many characters a plain scalar takes on a line. Inside brackets a few more characters end
it. -/
def plainLength (inFlow : Bool) : Text → Nat
  | [] => 0
  | c :: rest =>
    if isGap c ||
        (c == ':' && (atGap rest || (inFlow && rest.head?.any isFlowMark))) ||
        (inFlow && (c == '?' || isFlowMark c)) then 0
    else plainLength inFlow rest + 1

/-- The breaks and spaces before the next line with content, or a document marker. -/
def plainBreaks : (fuel : Nat) → Cursor → (Text × Cursor) × Bool
  | 0, c => (([], c), false)
  | fuel + 1, c =>
    if c.atChar ' ' then plainBreaks fuel c.next
    else match c.lineBreak? with
      | none => (([], c), false)
      | some (b, c) =>
        if atDocumentMarker c.rest then (([], c), true)
        else
          let ((breaks, c), stops) := plainBreaks fuel c
          ((b :: breaks, c), stops)

/-- What stands between a part of a plain scalar and the next: spaces, or folded breaks. Nothing if
a document marker comes. The flag says whether a line ended. -/
def plainGap (c : Cursor) : Text × Cursor × Bool :=
  let (spaces, c) := c.takeWhile (· == ' ')
  match c.lineBreak? with
  | none => (spaces, c, false)
  | some (first, c) =>
    if atDocumentMarker c.rest then ([], c, true)
    else
      let ((further, c), stops) := plainBreaks (c.rest.length + 1) c
      (if stops then [] else folded first further, c, true)

/-- The parts of a plain scalar from here on, `gap` before the first of them. -/
def plainFrom (inFlow : Bool) (indent : Int) : (fuel : Nat) → (gap : Text) → (lineEnded : Bool) →
    Cursor → Text × Cursor × Bool
  | 0, _, lineEnded, c => ([], c, lineEnded)
  | fuel + 1, gap, lineEnded, c =>
    let n := if c.atChar '#' then 0 else plainLength inFlow c.rest
    if n = 0 then ([], c, lineEnded)
    else
      let part := c.rest.take n
      let (next, c, ended) := plainGap (c.skip n)
      if next.isEmpty || c.atChar '#' || (!inFlow && (c.column : Int) < indent) then
        (gap ++ part, c, ended)
      else
        let (text, c, ended) := plainFrom inFlow indent fuel next ended c
        (gap ++ part ++ text, c, ended)

def plain (inFlow : Bool) (indent : Int) (c : Cursor) : Text × Cursor × Bool :=
  plainFrom inFlow indent (c.rest.length + 1) [] false c

/-! ## Quoted scalars -/

/-- Breaks within quotes. Document markers may not stand there. -/
def quotedBreaks : (fuel : Nat) → Cursor → Except Error (Text × Cursor)
  | 0, _ => .error .malformed
  | fuel + 1, c =>
    if atDocumentMarker c.rest then .error .malformed
    else
      let c := c.skipWhile fun ch => ch == ' ' || ch == '\t'
      match c.lineBreak? with
      | none => .ok ([], c)
      | some (b, c) => do
        let (breaks, c) ← quotedBreaks fuel c
        return (b :: breaks, c)

def namedEscape? (c : Char) : Option Char :=
  [('0', '\x00'), ('a', '\x07'), ('b', '\x08'), ('t', '\t'), ('\t', '\t'), ('n', '\n'),
   ('v', '\x0b'), ('f', '\x0c'), ('r', '\r'), ('e', '\x1b'), (' ', ' '), ('"', '"'), ('\\', '\\'),
   ('/', '/'), ('N', '\x85'), ('_', '\u00A0'), ('L', '\u2028'), ('P', '\u2029')].lookup c

/-- How many hexadecimal digits follow a letter that introduces a number. -/
def numberedEscape? (c : Char) : Option Nat := [('x', 2), ('u', 4), ('U', 8)].lookup c

def hexNumber? (digits : Text) : Option Nat :=
  digits.foldlM (fun n c => (hexValue? c).map (n * 16 + ·)) 0

def codePoint (n : Nat) : Except Error CodePoint :=
  if n < 0x110000 then .ok (.ofNat n)
  else .error (if n < 0x80000000 then .noCharacter else .noCodePoint)

def escape (c : Cursor) : Except Error (Content × Cursor) :=
  match c.peek? with
  | none => .error .malformed
  | some ch =>
    match namedEscape? ch, numberedEscape? ch with
    | some e, _ => .ok ([.char e], c.next)
    | none, some width =>
      let c := c.next
      let digits := c.rest.take width
      match if digits.length = width then hexNumber? digits else none with
      | none => .error .malformed
      | some n => do return ([← codePoint n], c.skip width)
    | none, none =>
      match c.lineBreak? with
      | some (_, c) => do
        let (breaks, c) ← quotedBreaks (c.rest.length + 1) c
        return (.ofText breaks, c)
      | none => .error .malformed

/-- Blanks within quotes: themselves, or at a line's end the folded breaks. -/
def quotedGap (c : Cursor) : Except Error (Text × Cursor) :=
  let (blanks, c) := c.takeWhile fun ch => ch == ' ' || ch == '\t'
  match c.lineBreak? with
  | none => .ok (blanks, c)
  | some (first, c) => do
    let (further, c) ← quotedBreaks (c.rest.length + 1) c
    return (folded first further, c)

def quotedFrom (double : Bool) : (fuel : Nat) → Cursor → Except Error (Content × Cursor)
  | 0, _ => .error .malformed
  | fuel + 1, c =>
    match c.peek? with
    | none => .error .malformed
    | some ch =>
      let continueWith (part : Content) (c : Cursor) : Except Error (Content × Cursor) := do
        let (more, c) ← quotedFrom double fuel c
        return (part ++ more, c)
      if isGap ch then do
        let (text, c) ← quotedGap c
        continueWith (.ofText text) c
      else if !double && ch == '\'' then
        if c.at? 1 = some '\'' then continueWith [.char ch] (c.skip 2) else .ok ([], c.next)
      else if double && ch == '"' then .ok ([], c.next)
      else if double && ch == '\\' then do
        let (part, c) ← escape c.next
        continueWith part c
      else continueWith [.char ch] c.next

def quoted (double : Bool) (c : Cursor) : Except Error (Content × Cursor) :=
  quotedFrom double (c.rest.length + 1) c.next

/-! ## Block scalars -/

/-- What becomes of the breaks at the end. -/
inductive Chomping where
  | strip | clip | keep
  deriving DecidableEq, Repr

def chomping? (c : Cursor) : Option Chomping :=
  if c.atChar '+' then some .keep else if c.atChar '-' then some .strip else none

/-- A digit from 1 to 9; the digit 0 is refused. -/
def increment? (c : Cursor) : Except Error (Option Nat) :=
  match c.peek? with
  | some ch =>
    if ch = '0' then .error .malformed
    else if isAsciiDigit ch then .ok (some (ch.toNat - 48)) else .ok none
  | none => .ok none

/-- The signs after `|` or `>`: chomping and indentation in either order. -/
def blockHeader (c : Cursor) : Except Error (Chomping × Option Nat × Cursor) := do
  let (chomping, increment, c) ← match chomping? c with
    | some chomping =>
      match ← increment? c.next with
      | some n => pure (chomping, some n, c.next.next)
      | none => pure (chomping, none, c.next)
    | none =>
      match ← increment? c with
      | some n =>
        match chomping? c.next with
        | some chomping => pure (chomping, some n, c.next.next)
        | none => pure (.clip, some n, c.next)
      | none => pure (.clip, none, c)
  if atSpace c.rest then return (chomping, increment, c) else throw .malformed

def restOfLine (c : Cursor) : Except Error Cursor :=
  let c := c.skipSpaces.skipComment
  if atLineEnd c.rest then .ok ((c.lineBreak?.map (·.2)).getD c) else .error .malformed

/-- The empty lines at the start of a block, and the deepest column among them and the first line
with content. -/
def firstIndent : (fuel : Nat) → (deepest : Nat) → Cursor → Text × Nat × Cursor
  | 0, deepest, c => ([], deepest, c)
  | fuel + 1, deepest, c =>
    if c.atChar ' ' then firstIndent fuel (max deepest c.next.column) c.next
    else match c.lineBreak? with
      | none => ([], deepest, c)
      | some (b, c) =>
        let (breaks, deepest, c) := firstIndent fuel deepest c
        (b :: breaks, deepest, c)

def skipIndent (indent : Nat) : (fuel : Nat) → Cursor → Cursor
  | 0, c => c
  | fuel + 1, c => if c.column < indent && c.atChar ' ' then skipIndent indent fuel c.next else c

/-- The empty lines before the next line, and the indentation of that line. -/
def blockBreaks (indent : Nat) : (fuel : Nat) → Cursor → Text × Cursor
  | 0, c => ([], c)
  | fuel + 1, c =>
    let c := skipIndent indent indent c
    match c.lineBreak? with
    | none => ([], c)
    | some (b, c) =>
      let (breaks, c) := blockBreaks indent fuel c
      (b :: breaks, c)

/-- The lines of a block from here on, `breaks` before the first of them. -/
def blockLines (fold : Bool) (chomping : Chomping) (indent : Nat) : (fuel : Nat) →
    (lineBreak breaks : Text) → Cursor → Text × Cursor
  | 0, _, _, c => ([], c)
  | fuel + 1, lineBreak, breaks, c =>
    if c.column = indent && c.peek?.isSome then
      let startsWithGap (c : Cursor) : Bool := c.atChar ' ' || c.atChar '\t'
      let flush := !startsWithGap c
      let (line, c) := c.takeWhile fun ch => !isBreak ch
      let (lineBreak, c) : Text × Cursor :=
        match c.lineBreak? with
        | some (b, c) => ([b], c)
        | none => ([], c)
      let (further, c) := blockBreaks indent (c.rest.length + 1) c
      if c.column = indent && c.peek?.isSome then
        let between : Text :=
          if fold && lineBreak = ['\n'] && flush && !startsWithGap c then
            if further.isEmpty then [' '] else []
          else lineBreak
        let (text, c) := blockLines fold chomping indent fuel lineBreak further c
        (breaks ++ line ++ between ++ text, c)
      else
        (breaks ++ line ++ ending lineBreak further, c)
    else (ending lineBreak breaks, c)
where
  ending (lineBreak further : Text) : Text :=
    match chomping with
    | .strip => []
    | .clip => lineBreak
    | .keep => lineBreak ++ further

/-- A block scalar from its sign on. `parent` is the indentation of the block around it. -/
def block (fold : Bool) (parent : Int) (c : Cursor) : Except Error (Text × Cursor) := do
  let (chomping, increment, c) ← blockHeader c.next
  let c ← restOfLine c
  let least := (max (parent + 1) 1).toNat
  let (indent, breaks, c) : Nat × Text × Cursor :=
    match increment with
    | some n =>
      let indent := least + n - 1
      let (breaks, c) := blockBreaks indent (c.rest.length + 1) c
      (indent, breaks, c)
    | none =>
      let (breaks, deepest, c) := firstIndent (c.rest.length + 1) 0 c
      (max least deepest, breaks, c)
  return blockLines fold chomping indent (c.rest.length + 1) [] breaks c

end EndpointManifest.Yaml.Scalar
