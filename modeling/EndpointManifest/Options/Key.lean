import EndpointManifest.Delimiter
import EndpointManifest.Text.Reader

/-!
The keys of the outermost object literal of an options text. Bracket blocks and string literals are
passed over whole, so that no key is ever found inside a value.
-/

namespace EndpointManifest

open Text

/-- A key of an entry: where it starts (its quote, if it has one) and where its value starts. -/
structure Key where
  name : Text
  start : Nat
  valueStart : Nat
  deriving Repr, DecidableEq

namespace Key

/-- `name:` with the blanks around the colon. -/
def bare? (t : Text) : Option (Text × Text) := do
  let (name, rest) ← run? isKeyChar t
  return (name, skipBlanks (← afterMark? ':' rest))

/-- `'name':` or `"name":`. A backquote quotes no key. -/
def quoted? (t : Text) : Option (Text × Text) := do
  let (q, rest) ← quote? t
  guard (q != '`')
  let (name, rest) ← run? isKeyChar rest
  return (name, skipBlanks (← afterMark? ':' (← after? [q] rest)))

/-- What the scan meets at a position: a key, or something to pass over, with the text after it; or
a block or literal that is never closed. -/
inductive Step where
  | key (name : Text) (rest : Text)
  | skip (rest : Text)
  | unclosed
  deriving Repr, DecidableEq

def step (c : Char) (rest : Text) : Step :=
  let t := c :: rest
  if Delimiter.isOpener c then
    match Delimiter.blockEnd? t with
    | some n => .skip (t.drop (n + 1))
    | none => .unclosed
  else if isQuote c then
    match quoted? t with
    | some (name, rest) => .key name rest
    | none =>
      match Delimiter.literalEnd? t with
      | some n => .skip (t.drop (n + 1))
      | none => .unclosed
  else if isNameStart c then
    match bare? t with
    | some (name, rest) => .key name rest
    | none => .skip (rest.dropWhile isNameChar)
  else .skip rest

/-- The keys from position `pos` on. Every step passes at least one character. -/
def scanFrom (pos : Nat) (t : Text) : List Key :=
  match t with
  | [] => []
  | c :: rest =>
    match step c rest with
    | .unclosed => []
    | .skip after =>
      if after.length ≤ rest.length then
        scanFrom (pos + (rest.length + 1 - after.length)) after
      else []
    | .key name after =>
      if after.length ≤ rest.length then
        let stop := pos + (rest.length + 1 - after.length)
        ⟨name, pos, stop⟩ :: scanFrom stop after
      else []
termination_by t.length
decreasing_by all_goals simp only [List.length_cons]; omega

/-- The keys of an options text, which may start with its opening brace. -/
def scan (options : Text) : List Key :=
  match options with
  | '{' :: rest => scanFrom 1 rest
  | _ => scanFrom 0 options

end Key
end EndpointManifest
