import EndpointManifest.Options.Value
import EndpointManifest.Text.Search

/-!
What a call's headers block tells: the content type it sends, and whether it authorises with a
bearer token.
-/

namespace EndpointManifest.Options

open Text

/-- `'content-type': 'value'`, the name quoted, the value between quotes of any kind. -/
def contentTypePattern : Pattern Text := fun before t => do
  guard !(before.any isKeyChar)
  let (q, rest) ← quote? t
  guard (q != '`')
  let rest ← after? [q] (← afterAnyCase? "content-type".toList rest)
  let (_, rest) ← quote? (skipBlanks (← afterMark? ':' rest))
  let (value, rest) ← run? (fun c => !isQuote c) rest
  let (_, rest) ← quote? rest
  return (value, rest)

/-- `authorization: 'Bearer`, the name bare or quoted, the word `Bearer` whole. -/
def bearerPattern : Pattern Unit := fun before t => do
  guard !(before.any isKeyChar)
  let (q, rest) : Text × Text :=
    match t with
    | '\'' :: rest => (['\''], rest)
    | '"' :: rest => (['"'], rest)
    | _ => ([], t)
  let rest ← afterMark? ':' (← after? q (← afterAnyCase? "authorization".toList rest))
  let (_, rest) ← quote? (skipBlanks rest)
  let rest ← afterAnyCase? "bearer".toList (skipBlanks rest)
  guard !(rest.head?.any isWord)
  return ((), rest)

structure Fields where
  contentType : Option Text := none
  bearer : Bool := false
  body : Option Text := none
  deriving Repr, DecidableEq

def fields (options : Text) : Fields :=
  let headers := headersBlock options
  { contentType := (find? contentTypePattern headers).map (trim ·.value)
    bearer := (find? bearerPattern headers).isSome
    body := body? options }

end EndpointManifest.Options
