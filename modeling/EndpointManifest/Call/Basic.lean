import EndpointManifest.Delimiter
import EndpointManifest.Method
import EndpointManifest.Text.Search

/-!
Calls that send a request, and the options object that a call may carry after its URL.
-/

namespace EndpointManifest

open Text

/-- A call found in a source. `closeIndex` is missing when its parenthesis is never closed. -/
structure Call where
  offset : Nat
  method : Method
  url : Text
  openIndex : Nat
  closeIndex : Option Nat
  options : Text
  deriving Repr, DecidableEq

namespace Call

def isClosed (call : Call) : Bool := call.closeIndex.isSome

/-- Drops a string literal at the front with the comma after it. The literal ends at the next quote
of the kind that opens it, the character after the opening quote apart. -/
def dropFirstArgument (arguments : Text) : Text :=
  match quote? (skipBlanks arguments) with
  | some (q, _ :: rest) =>
    match rest.dropWhile (· != q) with
    | [] => arguments
    | _ :: rest => (afterMark? ',' rest).getD rest
  | _ => arguments

/-- The `{…}` block after the URL among a call's arguments; empty when there is none or it is never
closed. -/
def optionsOf (arguments : Text) : Text :=
  let rest := trim (dropFirstArgument arguments)
  if startsWith ['{'] rest then
    match Delimiter.blockEnd? rest with
    | some n => rest.take (n + 1)
    | none => []
  else []

/-- Bounds the argument list of the call that starts at `offset`: its opening parenthesis is the
first one from there on. -/
def bound (t : Text) (offset : Nat) : Nat × Option Nat × Text :=
  let openIndex := offset + (t.drop offset).findIdx (· == '(')
  let closeIndex := Delimiter.matching? t openIndex
  let options := match closeIndex with
    | some close => optionsOf ((t.drop (openIndex + 1)).take (close - (openIndex + 1)))
    | none => []
  (openIndex, closeIndex, options)

end Call
end EndpointManifest
