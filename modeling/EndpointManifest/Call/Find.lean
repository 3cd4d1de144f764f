import EndpointManifest.Call.Basic

/-!
Finding the calls of a source. A call has one of two shapes: a client's function named by the
method, `request.post('/a', …)`, or `fetch('/a', { method: 'POST' })` with the method among the
options.
-/

namespace EndpointManifest.Call

open Text

/-- An argument list as far as its URL: `(` and a plain literal. -/
def urlArgument? (t : Text) : Option (Text × Text) := do
  plainLiteral? (skipBlanks (← afterMark? '(' t))

def identifier? : Text → Option (Text × Text)
  | [] => none
  | c :: rest =>
    if isLatinNameStart c then some (c :: rest.takeWhile isNameChar, rest.dropWhile isNameChar)
    else none

def verb? (t : Text) : Option (Method × Text) :=
  Method.all.findSome? fun m => (afterAnyCase? m.verb t).map (m, ·)

/-- `.verb('url'` after the name of a client. -/
def verbCall? (t : Text) : Option ((Method × Text) × Text) := do
  let (method, rest) ← verb? (skipBlanks (← afterMark? '.' t))
  let (url, rest) ← urlArgument? rest
  return ((method, url), rest)

/-- A call on one of the named clients; the first client in the list that fits counts. Without names
any identifier is a client. -/
def methodPattern (clients : List Text) : Pattern (Method × Text) := fun before t => do
  guard !(before.any isNameChar)
  if clients = [] ∨ clients = [[]] then verbCall? (← identifier? t).2
  else clients.findSome? fun client => do verbCall? (← afterAnyCase? client t)

def fetchCall? (t : Text) : Option (Text × Text) := do
  urlArgument? (← afterAnyCase? "fetch".toList t)

/-- `fetch('url'`, on its own or called on an identifier. -/
def fetchPattern : Pattern Text := fun before t => do
  guard (wordEdge before t)
  (do
    let (_, rest) ← identifier? t
    fetchCall? (skipBlanks (← afterMark? '.' rest))) <|> fetchCall? t

/-- `method: 'VERB'` at a word's edge, with quotes of any kind. -/
def methodFieldPattern : Pattern Text := fun before t => do
  guard (wordEdge before t)
  let rest ← afterMark? ':' (← after? "method".toList t)
  let (_, rest) ← quote? (skipBlanks rest)
  let (verb, rest) ← run? isAsciiLetter rest
  let (_, rest) ← quote? rest
  return (verb, rest)

/-- The method that a `fetch` with these options uses: GET unless a method field says otherwise. A
verb that is none of the five gives nothing. -/
def fetchMethod? (options : Text) : Option Method :=
  match find? methodFieldPattern options with
  | some field => Method.ofName? (upper field.value)
  | none => some .get

def methodCalls (t : Text) (clients : List Text) : List Call :=
  (findAll (methodPattern clients) t).map fun f =>
    let (openIndex, closeIndex, options) := bound t f.start
    ⟨f.start, f.value.1, f.value.2, openIndex, closeIndex, options⟩

def fetchCalls (t : Text) : List Call :=
  (findAll fetchPattern t).filterMap fun f =>
    let (openIndex, closeIndex, options) := bound t f.start
    (fetchMethod? options).map fun method =>
      ⟨f.start, method, f.value, openIndex, closeIndex, options⟩

def findCalls (t : Text) (clients : List Text) : List Call :=
  (methodCalls t clients ++ fetchCalls t).mergeSort fun a b => a.offset ≤ b.offset

end EndpointManifest.Call
