import EndpointManifest.Text.CharClass

/-!
The tokens of constants as they are written in the parameters of a handler: numbers, strings, words
and marks. Where a line ends does not matter inside brackets.
-/

namespace EndpointManifest.Text.Constant

inductive Token where
  | real | imaginary | string | bytes | ellipsis
  | word (name : Text)
  | mark (c : Char)
  deriving DecidableEq, Repr

/-- As many brackets may stand open at once. -/
def maxDepth : Nat := 200

/-- A run of digits in which single underscores may stand between two of them. -/
def digitRun (isDigit : Char → Bool) (t : Text) : Text × Text :=
  t.span fun c => isDigit c || c == '_'

def isRun (run : Text) : Bool := (splitOn '_' run).all (!·.isEmpty)

/-- A number in another base, after the letter of the base, which an underscore may follow. -/
def based? (isDigit : Char → Bool) (t : Text) : Option (Token × Text) :=
  let (run, rest) := digitRun isDigit t
  if isRun ('0' :: run) && run.any isDigit then some (.real, rest) else none

/-- A whole number begins with a zero only if it is zero. -/
def isWhole (run : Text) : Bool :=
  let digits := run.filter (· ≠ '_')
  digits.all (· = '0') || (digits.head? ≠ some '0' && digits.length ≤ maxDigits)

/-- The run of digits after a point, and what follows it; no point at all is none. -/
def afterPoint? : Text → Option (Text × Text)
  | '.' :: rest => some (digitRun isAsciiDigit rest)
  | _ => none

def afterExponent? : Text → Option (Text × Text)
  | e :: rest =>
    if e = 'e' || e = 'E' then
      let rest := if rest.head? = some '+' || rest.head? = some '-' then rest.tail else rest
      if rest.head?.any isAsciiDigit then some (digitRun isAsciiDigit rest) else none
    else none
  | [] => none

/-- A decimal number, whole or not; a `j` behind it makes it imaginary. -/
def decimal? (t : Text) : Option (Token × Text) :=
  let (whole, rest) := digitRun isAsciiDigit t
  let (fraction, rest, isPlain) :=
    match afterPoint? rest with
    | some (run, rest) => (run, rest, false)
    | none => ([], rest, true)
  let (exponent, rest, isPlain) :=
    match afterExponent? rest with
    | some (run, rest) => (run, rest, false)
    | none => ([], rest, isPlain)
  if [whole, fraction, exponent].any fun run => !run.isEmpty && !isRun run then none
  else if rest.head? = some 'j' || rest.head? = some 'J' then some (.imaginary, rest.tail)
  else if isPlain && !isWhole whole then none
  else some (.real, rest)

def number? (t : Text) : Option (Token × Text) :=
  match t with
  | '0' :: c :: rest =>
    if c = 'x' || c = 'X' then based? isHexDigit rest
    else if c = 'o' || c = 'O' then based? (isBetween '0' '7') rest
    else if c = 'b' || c = 'B' then based? (isBetween '0' '1') rest
    else decimal? t
  | _ => decimal? t
where
  isBetween (first last c : Char) : Bool := first ≤ c && c ≤ last

/-- Whether the number that an escape writes follows it in full. -/
def isEscape (isBytes : Bool) (c : Char) (t : Text) : Bool :=
  let hasDigits (n : Nat) : Bool := (t.take n).length = n && (t.take n).all isHexDigit
  if c = 'x' then hasDigits 2
  else if isBytes then true
  else if c = 'u' then hasDigits 4
  else if c = 'U' then hasDigits 8 && startsWith ['0', '0'] t && (t.drop 2).head? ≠ some '2' &&
    ((t.drop 2).take 2 = ['1', '0'] || (t.drop 2).head? = some '0')
  else if c = 'N' then
    t.head? = some '\x7b' && (t.drop 1).head?.any (· ≠ '\x7d') && t.contains '\x7d'
  else true

structure StringForm where
  quote : Char
  /-- Three quotes on both sides, which allow more than one line. -/
  isTriple : Bool
  isBytes : Bool
  /-- A backslash stands for itself. -/
  isRaw : Bool
  deriving DecidableEq, Repr

def stringRest? (form : StringForm) : Text → Option Text
  | [] => none
  | [c] => if c = form.quote && !form.isTriple then some [] else none
  | [c, d] =>
    if form.isBytes && 128 ≤ c.toNat then none
    else if c = form.quote && !form.isTriple then some [d]
    else if c ≠ '\\' && c ≠ '\n' && d = form.quote && !form.isTriple then some []
    else none
  | c :: d :: e :: rest =>
    if form.isBytes && 128 ≤ c.toNat then none
    else if c = '\\' then
      if form.isBytes && 128 ≤ d.toNat then none
      else if form.isRaw || isEscape form.isBytes d (e :: rest) then stringRest? form (e :: rest)
      else none
    else if c = form.quote then
      if !form.isTriple then some (d :: e :: rest)
      else if d = form.quote && e = form.quote then some rest
      else stringRest? form (d :: e :: rest)
    else if c = '\n' && !form.isTriple then none
    else stringRest? form (d :: e :: rest)

/-- A string from its first quote on, after the letters before it in small form. -/
def string? (letters : Text) (t : Text) : Option (Token × Text) := do
  let (isBytes, isRaw) ←
    if letters = [] || letters = ['u'] then some (false, false)
    else if letters = ['r'] then some (false, true)
    else if letters = ['b'] then some (true, false)
    else if letters = ['b', 'r'] || letters = ['r', 'b'] then some (true, true)
    else none
  let token := if isBytes then Token.bytes else .string
  match t with
  | q :: p :: r :: rest =>
    if p = q && r = q then (stringRest? ⟨q, true, isBytes, isRaw⟩ rest).map (token, ·)
    else (stringRest? ⟨q, false, isBytes, isRaw⟩ (p :: r :: rest)).map (token, ·)
  | q :: rest => (stringRest? ⟨q, false, isBytes, isRaw⟩ rest).map (token, ·)
  | [] => none

def isStringQuote (c : Char) : Bool := c == '\'' || c == '"'

def wordOrString? (t : Text) : Option (Token × Text) :=
  let (word, rest) := t.span isWord
  if rest.head?.any isStringQuote then
    string? (word.map fun c => if isAsciiUpper c then Char.ofNat (c.toNat + 32) else c) rest
  else if word.isEmpty then none
  else some (.word word, rest)

/-- A token of more than one character. -/
def token? (t : Text) : Option (Token × Text) :=
  match t with
  | '.' :: '.' :: '.' :: rest => some (.ellipsis, rest)
  | '.' :: c :: _ => if isAsciiDigit c then number? t else none
  | c :: _ => if isAsciiDigit c then number? t else wordOrString? t
  | [] => none

/-- The tokens of a text where `depth` brackets are open. Each step takes a character at least, so a
text needs no more steps than it has characters. -/
def tokensIn? : (steps depth : Nat) → Text → Option (List Token)
  | _, _, [] => some []
  | 0, _, _ :: _ => none
  | steps + 1, depth, c :: rest =>
    if c = ' ' || c = '\t' || c = '\x0c' then tokensIn? steps depth rest
    else if c = '#' then tokensIn? steps depth (rest.dropWhile (· ≠ '\n'))
    else if c = '\n' then
      match tokensIn? steps depth rest with
      | some [] => some []
      | some tokens => if depth = 0 then none else some tokens
      | none => none
    else if c = '\\' then
      match rest with
      | '\n' :: rest => tokensIn? steps depth rest
      | _ => none
    else if c = '(' || c = '\x7b' then
      if maxDepth ≤ depth then none
      else (tokensIn? steps (depth + 1) rest).map (.mark c :: ·)
    else if c = ')' || c = '\x7d' then (tokensIn? steps (depth - 1) rest).map (.mark c :: ·)
    else if c = ',' || c = ':' || c = '+' || c = '-' then
      (tokensIn? steps depth rest).map (.mark c :: ·)
    else do
      let (token, rest) ← token? (c :: rest)
      let tokens ← tokensIn? steps depth rest
      return token :: tokens

def unifyLines : Text → Text
  | [] => []
  | ['\r'] => ['\n']
  | '\r' :: '\n' :: rest => '\n' :: unifyLines rest
  | c :: rest => (if c = '\r' then '\n' else c) :: unifyLines rest

def tokens? (t : Text) : Option (List Token) :=
  if t.contains '\x00' then none
  else
    let t := unifyLines t
    tokensIn? t.length 0 t

end EndpointManifest.Text.Constant
