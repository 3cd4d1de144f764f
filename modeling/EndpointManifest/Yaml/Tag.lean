import EndpointManifest.Yaml.Moment

/-!
Tags, and the tag that the form of a plain scalar gives it.
-/

namespace EndpointManifest.Yaml

open Text

inductive Tag where
  | null | bool | int | real | moment | text | bytes
  | sequence | mapping | set | orderedMapping | pairs
  /-- The keys `<<` and `=`. -/
  | merge | value
  | unknown
  deriving DecidableEq, Repr

namespace Tag

def commonStem : Text := "tag:yaml.org,2002:".toList

def named : List (String × Tag) :=
  [("null", .null), ("bool", .bool), ("int", .int), ("float", .real), ("timestamp", .moment),
   ("str", .text), ("binary", .bytes), ("seq", .sequence), ("map", .mapping), ("set", .set),
   ("omap", .orderedMapping), ("pairs", .pairs), ("merge", .merge), ("value", .value)]

def ofText (t : Text) : Tag :=
  ((named.find? fun (name, _) => commonStem ++ name.toList = t).map (·.2)).getD .unknown

/-! ## Forms -/

def unsigned (t : Text) : Text :=
  match t with
  | '+' :: rest | '-' :: rest => rest
  | _ => t

def areDigits (isDigit : Char → Bool) (t : Text) : Bool :=
  !t.isEmpty && t.all fun c => isDigit c || c == '_'

def isDecimal (t : Text) : Bool := t.head?.any isAsciiDigit && areDigits isAsciiDigit t

/-- Colons, each with one digit, or two of which the first is at most five. -/
def areSixtieths (parts : List Text) : Bool :=
  !parts.isEmpty && parts.all fun part =>
    match part with
    | [a] => isAsciiDigit a
    | [a, b] => '0' ≤ a && a ≤ '5' && isAsciiDigit b
    | _ => false

def isInt (t : Text) : Bool :=
  match unsigned t with
  | ['0'] => true
  | '0' :: 'b' :: rest => areDigits (fun c => c == '0' || c == '1') rest
  | '0' :: 'x' :: rest => areDigits isHexDigit rest
  | '0' :: rest => areDigits (fun c => '0' ≤ c && c ≤ '7') rest
  | rest =>
    match splitOn ':' rest with
    | [whole] => isDecimal whole
    | whole :: sixtieths => isDecimal whole && areSixtieths sixtieths
    | [] => false

/-- An exponent with its sign, or nothing. -/
def isExponent : Text → Bool
  | [] => true
  | e :: sign :: digits =>
    (e == 'e' || e == 'E') && (sign == '+' || sign == '-') && !digits.isEmpty &&
      digits.all isAsciiDigit
  | _ => false

def isReal (t : Text) : Bool :=
  let (whole, rest) := (unsigned t).span (· != '.')
  let signed := unsigned t != t
  match rest with
  | [] => false
  | _ :: fraction =>
    let (places, exponent) := fraction.span fun c => isAsciiDigit c || c == '_'
    if whole.isEmpty then
      (!signed && places.head?.any isAsciiDigit && isExponent exponent) ||
        ["inf", "Inf", "INF"].any (·.toList = fraction) ||
        (!signed && ["nan", "NaN", "NAN"].any (·.toList = fraction))
    else
      match splitOn ':' whole with
      | [whole] => isDecimal whole && isExponent exponent
      | whole :: sixtieths => isDecimal whole && areSixtieths sixtieths && exponent.isEmpty
      | [] => false

def isNull (t : Text) : Bool := ["", "~", "null", "Null", "NULL"].any (·.toList = t)

def truths : List (String × Bool) :=
  [("yes", true), ("no", false), ("true", true), ("false", false), ("on", true), ("off", false)]

def capitalized (t : Text) : Text :=
  match t with
  | [] => []
  | c :: rest => c.toUpper :: rest

/-- In small letters, in capitals, or with a capital first. -/
def isBool (t : Text) : Bool :=
  truths.any fun (name, _) =>
    let name := name.toList
    t = name || t = capitalized name || t = name.map Char.toUpper

def ofForm (t : Text) : Tag :=
  if isBool t then .bool
  else if isReal t then .real
  else if isInt t then .int
  else if t = ['<', '<'] then .merge
  else if isNull t then .null
  else if Moment.isPlain t then .moment
  else if t = ['='] then .value
  else .text

/-- A line feed after a form makes no difference. -/
def withoutFinalBreak (t : Text) : Text := if t.getLast? = some '\n' then t.dropLast else t

/-- The tag of a plain scalar, or of another that is to be read like one. -/
def ofPlain (c : Content) : Tag :=
  match c.text? with
  | some t => if t = ['\n'] then .text else ofForm (withoutFinalBreak t)
  | none => .text

end Tag
end EndpointManifest.Yaml
