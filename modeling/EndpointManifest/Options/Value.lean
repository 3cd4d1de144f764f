import EndpointManifest.Options.Key

/-!
Values of an options text: where the value of a wanted key starts, the headers block, the body.
-/

namespace EndpointManifest.Options

open Text

/-- Where the value of the first key with one of the names starts. Names are compared by their small
letters. -/
def valueStart? (options : Text) (names : List Text) : Option Nat :=
  let wanted := names.map lower
  ((Key.scan options).find? fun key => wanted.contains (lower key.name)).map (·.valueStart)

/-- Trims, and makes every run of blanks one space; nothing is left of a blank text. -/
def clean? (value : Text) : Option Text :=
  match collapseBlanks (trim value) with
  | [] => none
  | cleaned => some cleaned

/-- The block or literal at the front of a text as far as its end at offset `n`, cleaned. -/
def cleanUpTo? (value : Text) (n : Nat) : Option Text := clean? (value.take (n + 1))

def headersBlock (options : Text) : Text :=
  match valueStart? options ["headers".toList] with
  | none => []
  | some start =>
    let value := options.drop start
    if startsWith ['{'] value then
      match Delimiter.blockEnd? value with
      | some n => value.take (n + 1)
      | none => []
    else []

/-- The length of the dotted name, and the blanks after it, that a call's parenthesis follows. -/
def calleeLength? (value : Text) : Option Nat :=
  match value with
  | [] => none
  | c :: rest =>
    if isNameStart c then
      let after := skipBlanks (rest.dropWhile isPathChar)
      if startsWith ['('] after then some (value.length - after.length) else none
    else none

/-- A value that is neither a block nor a closed literal: a call as far as its closing parenthesis,
or the text up to a comma, a line's end or a closing brace. -/
def expression? (value : Text) : Option Text :=
  match calleeLength? value with
  | some n => do cleanUpTo? value (n + (← Delimiter.blockEnd? (value.drop n)))
  | none => do clean? (← run? (fun c => c != ',' && c != '\n' && c != '}') value).1

/-- The value at the front of a text. A block that is never closed has none. -/
def value? (value : Text) : Option Text :=
  match value with
  | [] => none
  | c :: _ =>
    if c = '{' ∨ c = '[' then do cleanUpTo? value (← Delimiter.blockEnd? value)
    else match Delimiter.literalEnd? value with
      | some n => cleanUpTo? value n
      | none => expression? value

/-- The value under `data` or `body`, whichever comes first. -/
def body? (options : Text) : Option Text := do
  value? (options.drop (← valueStart? options ["data".toList, "body".toList]))

end EndpointManifest.Options
