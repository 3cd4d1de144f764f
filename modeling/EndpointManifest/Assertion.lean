import EndpointManifest.Text.Search

/-!
Assertions about a response, as they stand after the call: `expect(r.status()).toBe(201)`,
`expect(r.ok()).toBeTruthy()` and `expect(await r.text()).toContain('done')`.
-/

namespace EndpointManifest

open Text

namespace Assertion

/-- `expect(`. -/
def opening? (t : Text) : Option Text := do
  return skipBlanks (← afterMark? '(' (← afterAnyCase? "expect".toList t))

/-- `await` with at least one blank. -/
def await? (t : Text) : Option Text := do
  return skipBlanks (← run? isBlank (← afterAnyCase? "await".toList t)).2

/-- Reads with `await` at the front taken off, and if that fails without taking it off. -/
def awaiting? {α : Type} (reader : Text → Option α) (t : Text) : Option α :=
  (do reader (← await? t)) <|> reader t

def withoutEnding? (ending t : Text) : Option Text :=
  (afterAnyCase? ending.reverse t.reverse).map List.reverse

/-- `object.name`: a dotted name, a point and the name. The object is not empty, and blanks may
stand around the last point. -/
def member? (name : Text) (t : Text) : Option Text := do
  let (path, rest) ← run? isPathChar t
  (do afterAnyCase? name (skipBlanks (← afterMark? '.' rest)))
    <|> (do
      guard (endsWith ['.'] path && path.length > 1)
      afterAnyCase? name (skipBlanks rest))
    <|> (do
      let object ← withoutEnding? ('.' :: name) path
      guard !object.isEmpty
      return rest)

/-- An optional empty argument list, then the parenthesis that closes `expect(` and a point. -/
def closing? (t : Text) : Option Text := do
  let rest ← afterMark? ')' ((afterEmptyParens? t).getD t)
  return skipBlanks (← afterMark? '.' rest)

/-- Three decimal digits of any script. -/
def threeDigits? : Text → Option (Nat × Text)
  | a :: b :: c :: rest => do
    return ((← digitValue? a) * 100 + (← digitValue? b) * 10 + (← digitValue? c), rest)
  | _ => none

/-- `toBe(201)`, also `toEqual` and `toStrictEqual`. -/
def statusMatcher? (t : Text) : Option (Nat × Text) := do
  let rest ← ["tobe".toList, "toequal".toList, "tostrictequal".toList].findSome? fun name => do
    afterMark? '(' (← afterAnyCase? name t)
  let (code, rest) ← threeDigits? (skipBlanks rest)
  return (code, ← afterMark? ')' rest)

def truthMatcher? (t : Text) : Option Text :=
  (do afterEmptyParens? (← afterAnyCase? "tobetruthy".toList t)) <|> (do
    let rest ← afterMark? '(' (← afterAnyCase? "tobe".toList t)
    afterMark? ')' (← afterAnyCase? "true".toList (skipBlanks rest)))

def statusPattern : Pattern Nat := fun _ t => do
  awaiting? (fun t => do statusMatcher? (← closing? (← member? "status".toList t))) (← opening? t)

/-- The status that a successful response is taken to have. -/
def okStatus : Nat := 200

def okPattern : Pattern Nat := fun _ t => do
  let rest ← awaiting? (fun t => do truthMatcher? (← closing? (← member? "ok".toList t)))
    (← opening? t)
  return (okStatus, rest)

/-- Drops a chain of names, each followed by a point. -/
def skipObjects (t : Text) : Text :=
  match run? isNameChar t with
  | none => t
  | some (_, rest) =>
    match afterMark? '.' rest with
    | none => t
    | some rest =>
      let rest := skipBlanks rest
      if rest.length < t.length then skipObjects rest else t
termination_by t.length

def containMatcher? (t : Text) : Option (Text × Text) := do
  let rest ← afterMark? '(' (← afterAnyCase? "tocontain".toList t)
  let (text, rest) ← lineLiteral? (skipBlanks rest)
  return (text, ← afterMark? ')' rest)

def textPattern : Pattern Text := fun _ t => do
  awaiting? (fun t => do
    containMatcher? (← closing? (← afterAnyCase? "text".toList (skipObjects t)))) (← opening? t)

end Assertion

/-- What a window of source text asserts about a response. -/
structure Asserted where
  status : Option Nat := none
  substring : Option Text := none
  deriving Repr, DecidableEq

namespace Asserted

open Assertion

/-- The first match of a pattern whose code a status can have. -/
def firstInRange? (p : Pattern Nat) (window : Text) : Option (Found Nat) :=
  (findAll p window).find? fun f => 100 ≤ f.value && f.value ≤ 599

def earlier (a b : Option (Found Nat)) : Option (Found Nat) :=
  match a, b with
  | some a, some b => if b.start < a.start then some b else some a
  | some a, none => some a
  | none, b => b

/-- The earliest status and the earliest text that the window asserts. -/
def ofWindow (window : Text) : Asserted where
  status :=
    (earlier (firstInRange? statusPattern window) (firstInRange? okPattern window)).map (·.value)
  substring := (find? textPattern window).map (·.value)

end Asserted
end EndpointManifest
