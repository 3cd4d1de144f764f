import EndpointManifest.Text.Constant.Token

/-!
Which texts are constants: numbers, strings, and tuples, sets and mappings of constants. The value
of a constant is of no interest, only what it may be a part of.
-/

namespace EndpointManifest.Text

/-- What a constant is, as far as it matters where it may stand. -/
inductive Constant where
  | real
  | imaginary
  /-- A real number with a sign. -/
  | signed
  /-- Any other constant that may be an element of a set. -/
  | fixed
  /-- A set or a mapping, which may not. -/
  | changing
  deriving DecidableEq, Repr

namespace Constant

def isElement (c : Constant) : Bool := c != .changing

/-- What a sign makes of a number. It stands before nothing else. -/
def negated? : Constant → Option Constant
  | .real => some .signed
  | .imaginary => some .fixed
  | _ => none

def complex? : Constant → Constant → Option Constant
  | .real, .imaginary | .signed, .imaginary => some .fixed
  | _, _ => none

def isSign (t : Token) : Bool := t == .mark '+' || t == .mark '-'

/-- What follows the closing bracket, or nothing at the end of the text. -/
def closed? : Option Char → List Token → Option (List Token)
  | none, [] => some []
  | some c, .mark d :: rest => if c = d then some rest else none
  | _, _ => none

/-- Items in parentheses: one without a comma is itself, anything else a tuple. -/
def tuple (items : List Constant) (hasComma : Bool) : Constant :=
  match items with
  | [c] => if hasComma && c.isElement then .fixed else c
  | items => if items.all isElement then .fixed else .changing

def startsWithCall : List Token → Bool
  | .mark '(' :: .mark ')' :: _ => true
  | _ => false

mutual

def atom? : (steps : Nat) → List Token → Option (Constant × List Token)
  | 0, _ => none
  | steps + 1, tokens =>
    match tokens with
    | .real :: rest => some (.real, rest)
    | .imaginary :: rest => some (.imaginary, rest)
    | .ellipsis :: rest => some (.fixed, rest)
    | .string :: rest => some (.fixed, rest.dropWhile (· = .string))
    | .bytes :: rest => some (.fixed, rest.dropWhile (· = .bytes))
    | .word name :: rest =>
      if name = "True".toList || name = "False".toList || name = "None".toList then
        some (.fixed, rest)
      else if name = "set".toList && startsWithCall rest then some (.changing, rest.drop 2)
      else none
    | .mark '(' :: rest =>
      (items? steps (some ')') rest).map fun (items, hasComma, rest) => (tuple items hasComma, rest)
    | .mark '\x7b' :: rest => braces? steps rest
    | _ => none

/-- A number with a sign, the sum of a real and an imaginary number, or any other constant. -/
def constant? : (steps : Nat) → List Token → Option (Constant × List Token)
  | 0, _ => none
  | steps + 1, tokens => do
    let (c, rest) ←
      match tokens with
      | token :: rest =>
        if isSign token then do
          let (c, rest) ← atom? steps rest
          pure (← negated? c, rest)
        else atom? steps tokens
      | [] => none
    match rest with
    | token :: more =>
      if isSign token then do
        let (d, more) ← atom? steps more
        return (← complex? c d, more)
      else return (c, rest)
    | [] => return (c, rest)

/-- Items between commas up to `closing`, and whether there is any comma. -/
def items? : (steps : Nat) → (closing : Option Char) → List Token →
    Option (List Constant × Bool × List Token)
  | 0, _, _ => none
  | steps + 1, closing, tokens =>
    match closed? closing tokens with
    | some rest => some ([], false, rest)
    | none => do
      let (c, rest) ← constant? steps tokens
      match rest with
      | .mark ',' :: rest =>
        let (items, _, rest) ← items? steps closing rest
        return (c :: items, true, rest)
      | _ => return ([c], false, ← closed? closing rest)

def braces? : (steps : Nat) → List Token → Option (Constant × List Token)
  | 0, _ => none
  | steps + 1, tokens =>
    match closed? (some '\x7d') tokens with
    | some rest => some (.changing, rest)
    | none => do
      let (first, rest) ← constant? steps tokens
      if !first.isElement then none
      else match rest with
        | .mark ':' :: rest => (afterKey? steps rest).map fun rest => (.changing, rest)
        | .mark ',' :: rest =>
          let (items, _, rest) ← items? steps (some '\x7d') rest
          if items.all isElement then some (.changing, rest) else none
        | _ => (closed? (some '\x7d') rest).map fun rest => (.changing, rest)

/-- What follows a mapping, of which a key and its colon have been read. -/
def afterKey? : (steps : Nat) → List Token → Option (List Token)
  | 0, _ => none
  | steps + 1, tokens => do
    let (_, rest) ← constant? steps tokens
    match rest with
    | .mark ',' :: rest =>
      match closed? (some '\x7d') rest with
      | some rest => some rest
      | none =>
        let (key, rest) ← constant? steps rest
        match rest with
        | .mark ':' :: rest => if key.isElement then afterKey? steps rest else none
        | _ => none
    | _ => closed? (some '\x7d') rest

end

end Constant

/-- Whether a text is a constant. Commas may stand between several without parentheses. -/
def isConstant (t : Text) : Bool :=
  match Constant.tokens? t with
  | none => false
  | some tokens =>
    match Constant.items? (4 * (tokens.length + 1)) none tokens with
    | some (items, _, _) => !items.isEmpty
    | none => false

end EndpointManifest.Text
