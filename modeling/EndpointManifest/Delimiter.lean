import EndpointManifest.Text.CharClass

/-!
Where a bracket block or a string literal ends. Brackets are matched by counting one kind of bracket
only; the others, and quotes, are text like any other.
-/

namespace EndpointManifest.Delimiter

open Text

def closer? (c : Char) : Option Char :=
  if c = '(' then some ')' else if c = '{' then some '}' else if c = '[' then some ']' else none

def isOpener (c : Char) : Bool := (closer? c).isSome

/-- How far into the text the block ends when `depth` brackets are open at its front. -/
def closingFrom (opener closer : Char) : (depth : Nat) → Text → Option Nat
  | _, [] => none
  | depth, c :: rest =>
    if c = opener then (closingFrom opener closer (depth + 1) rest).map (· + 1)
    else if c = closer then
      if depth ≤ 1 then some 0 else (closingFrom opener closer (depth - 1) rest).map (· + 1)
    else (closingFrom opener closer depth rest).map (· + 1)

def blockEnd? : Text → Option Nat
  | [] => none
  | c :: rest => do
    let closer ← closer? c
    (· + 1) <$> closingFrom c closer 1 rest

/-- The position of the bracket closing the block that starts at `start`. -/
def matching? (t : Text) (start : Int) : Option Nat :=
  if start < 0 then none else (blockEnd? (t.drop start.toNat)).map (start.toNat + ·)

/-- How far into the text the next `quote` stands that no backslash escapes. -/
def quoteFrom (quote : Char) : Text → Option Nat
  | [] => none
  | ['\\'] => none
  | '\\' :: _ :: rest => (quoteFrom quote rest).map (· + 2)
  | c :: rest => if c = quote then some 0 else (quoteFrom quote rest).map (· + 1)

def literalEnd? : Text → Option Nat
  | [] => none
  | c :: rest => if isQuote c then (quoteFrom c rest).map (· + 1) else none

/-- The position of the quote closing the literal that starts at `start`. -/
def closingQuote? (t : Text) (start : Int) : Option Nat :=
  if start < 0 then none else (literalEnd? (t.drop start.toNat)).map (start.toNat + ·)

end EndpointManifest.Delimiter
