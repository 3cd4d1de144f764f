import EndpointManifest.Text.LetterCase

/-!
Readers look at the front of a text and give what follows the part they recognise. None of them
skips anything on its own: where blanks may stand, the caller says `skipBlanks`.
-/

namespace EndpointManifest.Text

def after? : (lit t : Text) → Option Text
  | [], t => some t
  | _ :: _, [] => none
  | a :: lit, b :: t => if a = b then after? lit t else none

def afterAnyCase? : (lit t : Text) → Option Text
  | [], t => some t
  | _ :: _, [] => none
  | a :: lit, b :: t => if sameLetter a b then afterAnyCase? lit t else none

/-- What follows one of the literals; the first that fits counts. -/
def afterOneOf? (lits : List Text) (t : Text) : Option Text := lits.findSome? (after? · t)

/-- What follows the character `c`, which may stand after blanks. -/
def afterMark? (c : Char) (t : Text) : Option Text := after? [c] (skipBlanks t)

def afterEmptyParens? (t : Text) : Option Text := do afterMark? ')' (← afterMark? '(' t)

def run? (p : Char → Bool) (t : Text) : Option (Text × Text) :=
  match t.span p with
  | ([], _) => none
  | (run, rest) => some (run, rest)

def quote? : Text → Option (Char × Text)
  | [] => none
  | c :: rest => if isQuote c then some (c, rest) else none

/-- A non-empty literal without any of the three quotes inside, closed by the quote that opens it.
-/
def plainLiteral? (t : Text) : Option (Text × Text) := do
  let (q, rest) ← quote? t
  let (inside, rest) ← run? (fun c => !isQuote c) rest
  return (inside, ← after? [q] rest)

/-- A non-empty literal on one line, closed by the next quote of the kind that opens it. -/
def lineLiteral? (t : Text) : Option (Text × Text) := do
  let (q, rest) ← quote? t
  let (inside, rest) ← run? (fun c => c != q && c != '\n') rest
  return (inside, ← after? [q] rest)

end EndpointManifest.Text
