import EndpointManifest.Text.Utf8
import EndpointManifest.Yaml.Token.Basic
import EndpointManifest.Yaml.Token.Scalar

/-!
From a YAML text to its tokens. A token that may turn out to be a mapping key is remembered until
its line ends; when a colon shows it was one, the key is put in before it, and with it the start of
the mapping if the key stands deeper than the block around it. A text that is malformed somewhere
has the tokens that were settled when that place was reached.
-/

namespace EndpointManifest.Yaml

open Text

/-- A token that may be a key. A required one stands where only a key can. -/
structure KeyCandidate where
  tokenIndex : Nat
  required : Bool
  index : Nat
  line : Nat
  column : Nat
  deriving Repr

structure Lexer where
  cursor : Cursor
  tokens : Array Token := #[]
  /-- How many brackets are open. -/
  flowLevel : Nat := 0
  /-- The column of the innermost block, and those of the blocks around it. -/
  indent : Int := -1
  outerIndents : List Int := []
  keyAllowed : Bool := true
  /-- At most one candidate for each number of open brackets. -/
  candidates : List (Nat × KeyCandidate) := []
  deriving Repr

namespace Lexer

abbrev Step := Except Error Lexer

def inFlow (s : Lexer) : Bool := 0 < s.flowLevel

def push (s : Lexer) (t : Token) : Lexer := { s with tokens := s.tokens.push t }

def insertAt (s : Lexer) (i : Nat) (t : Token) : Lexer :=
  { s with tokens := (s.tokens.extract 0 i).push t ++ s.tokens.extract i s.tokens.size }

def mark (s : Lexer) (t : Token) : Lexer := { s.push t with cursor := s.cursor.next }

def longestKey : Nat := 1024

def dropStale (s : Lexer) : Step :=
  let stale (k : KeyCandidate) : Bool :=
    k.line != s.cursor.line || s.cursor.index - k.index > longestKey
  if s.candidates.any fun (_, k) => stale k && k.required then .error .malformed
  else .ok { s with candidates := s.candidates.filter fun (_, k) => !stale k }

def dropCandidate (s : Lexer) : Step :=
  if s.candidates.any fun (level, k) => level == s.flowLevel && k.required then .error .malformed
  else .ok { s with candidates := s.candidates.filter fun (level, _) => level != s.flowLevel }

def noteCandidate (s : Lexer) : Step :=
  if s.keyAllowed then do
    let s ← s.dropCandidate
    let c := s.cursor
    let required := !s.inFlow && s.indent == (c.column : Int)
    return { s with
      candidates :=
        (s.flowLevel, ⟨s.tokens.size, required, c.index, c.line, c.column⟩) :: s.candidates }
  else .ok s

/-- Ends the blocks that stand deeper than a column. -/
def unwind (s : Lexer) (column : Int) : Lexer :=
  if s.inFlow then s else go s s.outerIndents
where
  go (s : Lexer) : List Int → Lexer
    | [] => s
    | outer :: rest =>
      if column < s.indent then
        go { s.push .blockEnd with indent := outer, outerIndents := rest } rest
      else s

/-- Starts a block at a column that is deeper than the block around it. -/
def deepen (s : Lexer) (column : Nat) : Option Lexer :=
  if s.indent < column then
    some { s with indent := column, outerIndents := s.indent :: s.outerIndents }
  else none

def startBlock (s : Lexer) (t : Token) : Lexer :=
  match s.deepen s.cursor.column with
  | some s => s.push t
  | none => s

/-- Passes spaces, comments and breaks before a token. After a break a key may come. -/
def skipToToken (s : Lexer) : (fuel : Nat) → Cursor → Cursor × Bool
  | 0, c => (c, s.keyAllowed)
  | fuel + 1, c =>
    let c := c.skipSpaces.skipComment
    match c.lineBreak? with
    | some (_, c) => skipToToken { s with keyAllowed := s.keyAllowed || !s.inFlow } fuel c
    | none => (c, s.keyAllowed)

/-! ## Directives, anchors and tags -/

def isNameChar (c : Char) : Bool := isAsciiLetter c || isAsciiDigit c || c == '-' || c == '_'

def number (c : Cursor) : Except Error (Nat × Cursor) :=
  let (digits, c) := c.takeWhile isAsciiDigit
  if digits.isEmpty then .error .malformed else .ok (natOfDigits digits, c)

/-- `!`, or `!name!`. In a directive, and where a second mark comes, the name must be closed. -/
def tagHandle (c : Cursor) : Except Error (Text × Cursor) :=
  if !c.atChar '!' then .error .malformed
  else if c.at? 1 = some ' ' then .ok (['!'], c.next)
  else
    let (name, after) := c.next.takeWhile isNameChar
    if after.atChar '!' then .ok ('!' :: name ++ ['!'], after.next) else .error .malformed

def isUriChar (c : Char) : Bool :=
  isAsciiLetter c || isAsciiDigit c || "-;/?:@&=+$,_.!~*'()[]%".toList.contains c

def uriBytes : (fuel : Nat) → Cursor → Except Error (List UInt8 × Cursor)
  | 0, c => .ok ([], c)
  | fuel + 1, c =>
    if c.atChar '%' then
      match c.at? 1, c.at? 2 with
      | some a, some b =>
        match Scalar.hexNumber? [a, b] with
        | some n => do
          let (more, c) ← uriBytes fuel (c.skip 3)
          return (UInt8.ofNat n :: more, c)
        | none => .error .malformed
      | _, _ => .error .malformed
    else .ok ([], c)

/-- The characters of a tag, with bytes written `%XX` read as UTF-8. -/
def uriFrom : (fuel : Nat) → Cursor → Except Error (Text × Cursor)
  | 0, c => .ok ([], c)
  | fuel + 1, c =>
    if c.atChar '%' then do
      let (octets, c) ← uriBytes (c.rest.length + 1) c
      match decodeUtf8 octets with
      | .error _ => throw .malformed
      | .ok t =>
        let (more, c) ← uriFrom fuel c
        return (t ++ more, c)
    else
      match c.takeWhile fun ch => isUriChar ch && ch != '%' with
      | ([], c) => .ok ([], c)
      | (part, c) => do
        let (more, c) ← uriFrom fuel c
        return (part ++ more, c)

def uri (c : Cursor) : Except Error (Text × Cursor) := do
  let (text, after) ← uriFrom (c.rest.length + 1) c
  if text.isEmpty && after.index = c.index then throw .malformed else return (text, after)

def directiveOf (name : Text) (c : Cursor) : Except Error (Directive × Cursor) :=
  if name = "YAML".toList then do
    let (major, c) ← number c.skipSpaces
    if !c.atChar '.' then throw .malformed
    let (_, c) ← number c.next
    if atSpace c.rest then return (.version major, c) else throw .malformed
  else if name = "TAG".toList then do
    let (handle, c) ← tagHandle c.skipSpaces
    if !c.atChar ' ' then throw .malformed
    let (stem, c) ← uri c.skipSpaces
    if atSpace c.rest then return (.tag handle stem, c) else throw .malformed
  else .ok (.other, c.skipWhile fun ch => !isBreak ch)

def directive (c : Cursor) : Except Error (Directive × Cursor) := do
  let (name, c) := c.next.takeWhile isNameChar
  if name.isEmpty || !atSpace c.rest then throw .malformed
  let (d, c) ← directiveOf name c
  return (d, ← Scalar.restOfLine c)

def anchorName (c : Cursor) : Except Error (Text × Cursor) :=
  let (name, c) := c.next.takeWhile isNameChar
  let ends := atGap c.rest || c.peek?.any fun ch => "?:,]\x7d%@`".toList.contains ch
  if name.isEmpty || !ends then .error .malformed else .ok (name, c)

/-- A tag: verbatim between angle brackets, the lone mark, or a handle and a suffix. -/
def tagToken (c : Cursor) : Except Error (Token × Cursor) := do
  let (handle, suffix, c) ← (
    if c.at? 1 = some '<' then do
      let (suffix, c) ← uri (c.skip 2)
      if c.atChar '>' then return (none, suffix, c.next) else throw .malformed
    else if atGap (c.rest.drop 1) then return (none, ['!'], c.next)
    else do
      let word := (c.rest.drop 1).takeWhile fun ch => ch != ' ' && !isBreak ch
      let (handle, c) ← if word.contains '!' then tagHandle c else pure (['!'], c.next)
      let (suffix, c) ← uri c
      return (some handle, suffix, c) : Except Error (Option Text × Text × Cursor))
  if atSpace c.rest then return (.tag handle suffix, c) else throw .malformed

/-! ## Tokens -/

/-- Emits a token that starts a node and has been read up to `c`. -/
def node (s : Lexer) (t : Token) (c : Cursor) : Lexer :=
  { s.push t with cursor := c, keyAllowed := false }

def closeDocument (s : Lexer) : Step := do
  let s ← (s.unwind (-1)).dropCandidate
  return { s with keyAllowed := false }

def openBracket (s : Lexer) (t : Token) : Step := do
  let s ← s.noteCandidate
  return { s.mark t with flowLevel := s.flowLevel + 1, keyAllowed := true }

def closeBracket (s : Lexer) (t : Token) : Step := do
  let s ← s.dropCandidate
  if s.flowLevel = 0 then throw .malformed
  return { s.mark t with flowLevel := s.flowLevel - 1, keyAllowed := false }

def flowEntry (s : Lexer) : Step := do
  let s ← { s with keyAllowed := true }.dropCandidate
  return s.mark .flowEntry

/-- An entry of a block sequence or an explicit key: outside brackets it may start a block. -/
def blockIndicator (s : Lexer) (start t : Token) (keyAfter : Bool) : Step := do
  if !s.inFlow && !s.keyAllowed then throw .malformed
  let s := if s.inFlow then s else s.startBlock start
  let s ← { s with keyAllowed := keyAfter }.dropCandidate
  return s.mark t

/-- The colon: the candidate, if there is one, was a key. -/
def value (s : Lexer) : Step :=
  match s.candidates.lookup s.flowLevel with
  | some k =>
    let s := { s with candidates := s.candidates.filter fun (level, _) => level != s.flowLevel }
    let s := s.insertAt k.tokenIndex .key
    let s := match if s.inFlow then none else s.deepen k.column with
      | some s => s.insertAt k.tokenIndex .blockMappingStart
      | none => s
    .ok { s.mark .value with keyAllowed := false }
  | none => s.blockIndicator .blockMappingStart .value (!s.inFlow)

def plainStarts (inFlow : Bool) : Text → Bool
  | [] => false
  | c :: rest =>
    (!isGap c && !("-?:,[]\x7b\x7d#&*!|>'\"%@`".toList.contains c)) ||
      (!atGap rest && (c == '-' || (!inFlow && (c == '?' || c == ':'))))

def token (s : Lexer) (ch : Char) : Step :=
  let c := s.cursor
  let gapAfter := atGap (c.rest.drop 1)
  if c.column = 0 && ch = '%' then do
    let s ← s.closeDocument
    let (d, c) ← directive c
    return { s.push (.directive d) with cursor := c }
  else if c.column = 0 && atDocumentMarker c.rest then do
    let s ← s.closeDocument
    return { s.push (if ch = '-' then .documentStart else .documentEnd) with cursor := c.skip 3 }
  else if ch = '[' then s.openBracket .flowSequenceStart
  else if ch = '{' then s.openBracket .flowMappingStart
  else if ch = ']' then s.closeBracket .flowSequenceEnd
  else if ch = '}' then s.closeBracket .flowMappingEnd
  else if ch = ',' then s.flowEntry
  else if ch = '-' && gapAfter then s.blockIndicator .blockSequenceStart .blockEntry true
  else if ch = '?' && (s.inFlow || gapAfter) then
    s.blockIndicator .blockMappingStart .key (!s.inFlow)
  else if ch = ':' && (s.inFlow || gapAfter) then s.value
  else if ch = '*' || ch = '&' then do
    let s ← s.noteCandidate
    let (name, c) ← anchorName c
    return s.node (if ch = '*' then .alias name else .anchor name) c
  else if ch = '!' then do
    let s ← s.noteCandidate
    let (t, c) ← tagToken c
    return s.node t c
  else if (ch = '|' || ch = '>') && !s.inFlow then do
    let s ← { s with keyAllowed := true }.dropCandidate
    let (text, c) ← Scalar.block (ch = '>') s.indent c
    return { s.push (.scalar (.ofText text) false) with cursor := c }
  else if ch = '\'' || ch = '"' then do
    let s ← s.noteCandidate
    let (content, c) ← Scalar.quoted (ch = '"') c
    return s.node (.scalar content false) c
  else if plainStarts s.inFlow c.rest then do
    let s ← s.noteCandidate
    let (text, c, lineEnded) := Scalar.plain s.inFlow (s.indent + 1) c
    return { s.node (.scalar (.ofText text) true) c with keyAllowed := lineEnded }
  else throw .malformed

def finish (s : Lexer) : Step := do
  let s ← s.closeDocument
  return s.push .streamEnd

/-- Reads on up to the next token. At the end of the text there is none. -/
def step (s : Lexer) : Except Error (Lexer × Bool) := do
  let (c, keyAllowed) := s.skipToToken (s.cursor.rest.length + 1) s.cursor
  let s ← { s with cursor := c, keyAllowed }.dropStale
  let s := s.unwind c.column
  match c.peek? with
  | none => return (← s.finish, true)
  | some ch => return (← s.token ch, false)

/-- The tokens that no key can come before any more. -/
def settled (s : Lexer) : List Token :=
  let s := match s.dropStale with
    | .ok s => s
    | .error _ => s
  let count := s.candidates.foldl (fun n (_, k) => min n k.tokenIndex) s.tokens.size
  (s.tokens.extract 0 count).toList

def run : (fuel : Nat) → Lexer → TokenStream
  | 0, s => ⟨s.settled, .malformed⟩
  | fuel + 1, s =>
    match s.step with
    | .error e => ⟨s.settled, e⟩
    | .ok (s, true) => { tokens := s.tokens.toList }
    | .ok (s, false) => run fuel s

end Lexer

def isAllowed (c : Char) : Bool :=
  let n := c.toNat
  n == 0x9 || n == 0xA || n == 0xD || (0x20 ≤ n && n ≤ 0x7E) || n == 0x85 ||
    (0xA0 ≤ n && n ≤ 0xD7FF) || (0xE000 ≤ n && n ≤ 0xFFFD) || 0x10000 ≤ n

/-- The tokens of a text; a byte-order mark at its start is passed over. -/
def TokenStream.ofText (text : Text) : TokenStream :=
  if text.all isAllowed then
    let start : Cursor := { rest := text }
    Lexer.run (text.length + 2)
      { cursor := if start.atChar Cursor.byteOrderMark then start.next else start }
  else { tokens := [] }

end EndpointManifest.Yaml
