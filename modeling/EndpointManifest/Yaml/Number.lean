import EndpointManifest.Schema.Binary64
import EndpointManifest.Yaml.Error

/-!
The numbers that scalars write: integers to several bases and real numbers, both also in groups to
base sixty.
-/

namespace EndpointManifest.Yaml.Content

open Text

def splitSign : Content → Bool × Content
  | .char '-' :: rest => (true, rest)
  | .char '+' :: rest => (false, rest)
  | c => (false, c)

def signed : Text → Bool × Text
  | '-' :: rest => (true, rest)
  | '+' :: rest => (false, rest)
  | t => (false, t)

def withoutUnderscores (c : Content) : Content := c.filter (· != .char '_')

def groups (c : Content) : List Content := splitWhere (· == .char ':') c

/-! ## Integers -/

/-- A digit to a base of at most sixteen; decimal digits may be of any script. -/
def digitOf? (base : Nat) (c : Char) : Option Nat := do
  let n ← (hexValue? c).or (digitValue? c)
  if n < base then some n else none

def isBaseMark (base : Nat) (c : Char) : Bool :=
  (base = 2 && (c == 'b' || c == 'B')) || (base = 8 && (c == 'o' || c == 'O')) ||
    (base = 16 && (c == 'x' || c == 'X'))

/-- An integer with an optional sign and blanks around it, also with the mark of its base in front.
The digits at the front of a decimal one are counted before anything else is refused. -/
def intOf (base : Nat) (c : Content) : Except Error Int :=
  let (negative, t) := signed (c.legible.dropWhile isNumberBlank)
  let t :=
    match t with
    | '0' :: mark :: rest => if isBaseMark base mark then rest else t
    | _ => t
  let digits := t.takeWhile fun d => (digitOf? base d).isSome
  if base = 10 && digits.length > maxDigits then .error (.tooManyDigits digits.length)
  else if digits.isEmpty || !(t.drop digits.length).all isNumberBlank then .error (.notInt base c)
  else
    let n := digits.foldl (fun n d => n * base + (digitOf? base d).getD 0) 0
    .ok (if negative then -n else n)

/-- A zero at the front leads in binary, hexadecimal or octal digits. -/
def toInt (c : Content) : Except Error Int := do
  let c := c.withoutUnderscores
  if c.isEmpty then throw .emptyNumber
  let (negative, digits) := c.splitSign
  let n ← match digits with
    | [] => throw .emptyNumber
    | [.char '0'] => pure 0
    | .char '0' :: .char 'b' :: rest => intOf 2 rest
    | .char '0' :: .char 'x' :: rest => intOf 16 rest
    | .char '0' :: _ => intOf 8 digits
    | _ => (·.foldl (fun n group => n * 60 + group) 0) <$> digits.groups.mapM (intOf 10)
  return if negative then -n else n

/-! ## Real numbers -/

/-- Digits, a point, an exponent: the number that they write as digits and a power of ten. -/
def decimal? (t : Text) : Option (Nat × Int) := do
  let (whole, rest) := t.span isAsciiDigit
  let (places, rest) :=
    match rest with
    | '.' :: rest => rest.span isAsciiDigit
    | _ => ([], rest)
  guard !(whole.isEmpty && places.isEmpty)
  let exponent ← match rest with
    | [] => some 0
    | e :: rest => do
      guard (e == 'e' || e == 'E')
      let (negative, digits) := signed rest
      guard (!digits.isEmpty && digits.all isAsciiDigit)
      let n : Int := natOfDigits digits
      some (if negative then -n else n)
  return (natOfDigits (whole ++ places), exponent - places.length)

def asciiDigit (c : Char) : Char :=
  match digitValue? c with
  | some n => Char.ofNat (n + 48)
  | none => c

/-- A real number in small letters, with an optional sign and blanks around it. -/
def realOf (c : Content) : Except Error Binary64 :=
  let (negative, digits) := signed (dropTrailing isNumberBlank (c.legible.dropWhile isNumberBlank))
  if digits = "inf".toList || digits = "infinity".toList then .ok (.infinite negative)
  else if digits = "nan".toList then .ok .nan
  else match decimal? (digits.map asciiDigit) with
    | some (n, exponent) => .ok (.ofDecimal negative n exponent)
    | none => .error (.notReal c)

/-- Adds up groups to base sixty, the last one first, each sum and product rounded. -/
def weighted : (weight : Nat) → (sum : Binary64) → List Binary64 → Except Error Binary64
  | _, sum, [] => .ok sum
  | weight, sum, group :: rest =>
    match Binary64.ofNat? weight with
    | some w => weighted (weight * 60) (sum.add (group.mul w)) rest
    | none => .error .weightRange

def toReal (c : Content) : Except Error Binary64 := do
  let c := c.withoutUnderscores.lower
  if c.isEmpty then throw .emptyNumber
  let (negative, digits) := c.splitSign
  let x ←
    if digits = .ofText ".inf".toList then pure (.infinite false)
    else if digits = .ofText ".nan".toList then pure .nan
    else match digits.groups with
      | [_] => realOf digits
      | groups => do weighted 1 (.finite false 0 0) (← groups.mapM realOf).reverse
  return if negative then x.neg else x

end EndpointManifest.Yaml.Content
