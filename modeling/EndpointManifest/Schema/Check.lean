import EndpointManifest.Schema.Datum
import EndpointManifest.Schema.Fault
import EndpointManifest.Text.CharClass
import EndpointManifest.Text.Utf8

/-!
Checks of a raw value against a type. They are lenient where nothing is lost: `12`, `'12'` and
`12.0` are all the integer 12, and `yes` is a truth value.
-/

namespace EndpointManifest.Datum

open Text

def toText : Datum → Except FaultKind Text
  | .text t => .ok t
  | .bytes octets =>
    match decodeUtf8 octets with
    | .ok t => .ok t
    | .error _ => .error .stringUnicode
  | .brokenText => .error .stringUnicode
  | _ => .error .stringType

def digits? (t : Text) : Option Nat :=
  let groups := splitOn '_' t
  if groups.all fun g => !g.isEmpty && g.all isAsciiDigit then
    some (natOfDigits groups.flatten)
  else none

/-- A sign, digits, and a point that only zeros follow. Of these only the digits must be there. -/
def intOfText (t : Text) : Except FaultKind Int :=
  let t := dropTrailing isNumberBlank (t.dropWhile isNumberBlank)
  let (negative, unsigned) : Bool × Text :=
    match t with
    | '-' :: rest => (true, rest)
    | '+' :: rest => (false, rest)
    | _ => (false, t)
  let (whole, places) := unsigned.span (· != '.')
  if maxDigits < t.length then .error .intParsingSize
  else if places.isEmpty || (places.length > 1 && (places.drop 1).all (· == '0')) then
    match digits? whole with
    | some n => .ok (if negative then -n else n)
    | none => .error .intParsing
  else .error .intParsing

/-- A word of 64 bits holds the integers from minus this one on, and below it. -/
def wordBound : Int := 9223372036854775808

/-- A number without places after the point that a word of 64 bits can hold. -/
def intOfReal (x : Binary64) : Except FaultKind Int :=
  match x with
  | .finite .. =>
    match x.toInt? with
    | some n => if -wordBound < n && n < wordBound then .ok n else .error .intParsingSize
    | none => .error .intFromFloat
  | _ => .error .finiteNumber

def toInt : Datum → Except FaultKind Int
  | .int n => .ok n
  | .bool b => .ok (if b then 1 else 0)
  | .real x => intOfReal x
  | .text t => intOfText t
  | .bytes octets =>
    match decodeUtf8 octets with
    | .ok t => intOfText t
    | .error _ => .error .intParsing
  | .brokenText => .error .stringUnicode
  | _ => .error .intType

def asciiLower (t : Text) : Text :=
  t.map fun c => if isAsciiUpper c then Char.ofNat (c.toNat + 32) else c

def boolOfText (t : Text) : Except FaultKind Bool :=
  let t := asciiLower t
  if ["0", "off", "f", "false", "n", "no"].any (·.toList = t) then .ok false
  else if ["1", "on", "t", "true", "y", "yes"].any (·.toList = t) then .ok true
  else .error .boolParsing

def boolOfInt (n : Int) : Except FaultKind Bool :=
  if n = 0 then .ok false else if n = 1 then .ok true else .error .boolParsing

/-- Numbers beyond a word of 64 bits and numbers with places are of another type. -/
def toBool : Datum → Except FaultKind Bool
  | .bool b => .ok b
  | .int n =>
    if -wordBound ≤ n && n < wordBound then boolOfInt n else .error .boolType
  | .real x =>
    match intOfReal x with
    | .ok n => boolOfInt n
    | .error _ => .error .boolType
  | .text t => boolOfText t
  | .bytes octets =>
    match decodeUtf8 octets with
    | .ok t => boolOfText t
    | .error _ => .error .boolParsing
  | .brokenText => .error .stringUnicode
  | _ => .error .boolType

def toTexts : Datum → Checked (List Text)
  | .list items => Checked.list (fun item => .ofExcept item.toText) 0 items
  | _ => .faulty [⟨[], .listType⟩]

end EndpointManifest.Datum
