/-!
Binary floating point numbers of double precision, as exact values. A number is read from a quotient
of natural numbers and rounded to the nearest one, a tie to the even significand.
-/

namespace EndpointManifest

/-- A finite number is `significand · 2 ^ exponent`, with a sign. -/
inductive Binary64 where
  | finite (negative : Bool) (significand : Nat) (exponent : Int)
  | infinite (negative : Bool)
  | nan
  deriving DecidableEq, Repr

namespace Binary64

/-- The integer nearest to a quotient; of two the even one. -/
def roundDiv (num den : Nat) : Nat :=
  let q := num / den
  let r := num % den
  if 2 * r < den then q else if den < 2 * r then q + 1 else if q % 2 = 0 then q else q + 1

def scale (num den : Nat) (exponent : Int) : Nat × Nat :=
  (num <<< (-exponent).toNat, den <<< exponent.toNat)

/-- The exponent that leaves 53 binary digits before the point, or the least exponent there is. -/
def exponentFor (num den : Nat) : Int :=
  let guess : Int := (num.log2 : Int) - den.log2 - 53
  let (n, d) := scale num den guess
  max (if n / d < 1 <<< 53 then guess else guess + 1) (-1074)

def ofRatio (negative : Bool) (num den : Nat) : Binary64 :=
  if num = 0 then .finite negative 0 0
  else
    let exponent := exponentFor num den
    let (n, d) := scale num den exponent
    let significand := roundDiv n d
    if significand <<< exponent.toNat < 1 <<< 1024 then .finite negative significand exponent
    else .infinite negative

/-- The number nearest to `digits · 10 ^ exponent`. Far outside the range the power is not computed.
-/
def ofDecimal (negative : Bool) (digits : Nat) (exponent : Int) : Binary64 :=
  let width : Int := digits.log2
  if digits = 0 ∨ exponent < -400 - width then .finite negative 0 0
  else if 400 < exponent then .infinite negative
  else ofRatio negative (digits * Nat.pow 10 exponent.toNat) (Nat.pow 10 (-exponent).toNat)

def ofScaled (negative : Bool) (n : Nat) (exponent : Int) : Binary64 :=
  ofRatio negative (n <<< exponent.toNat) (1 <<< (-exponent).toNat)

def isNegative : Binary64 → Bool
  | .finite negative .. | .infinite negative => negative
  | .nan => false

def isZero : Binary64 → Bool
  | .finite _ significand _ => significand == 0
  | _ => false

/-- The product, rounded. Zero times infinity is no number. -/
def mul (x y : Binary64) : Binary64 :=
  let negative := x.isNegative != y.isNegative
  match x, y with
  | .nan, _ | _, .nan => .nan
  | .infinite _, y => if y.isZero then .nan else .infinite negative
  | x, .infinite _ => if x.isZero then .nan else .infinite negative
  | .finite _ m e, .finite _ n f => .ofScaled negative (m * n) (e + f)

/-- The sum, rounded. A sum that is zero is negative only if both numbers are. -/
def add (x y : Binary64) : Binary64 :=
  match x, y with
  | .nan, _ | _, .nan => .nan
  | .infinite a, .infinite b => if a = b then .infinite a else .nan
  | .infinite a, _ | _, .infinite a => .infinite a
  | .finite a m e, .finite b n f =>
    let least := min e f
    let whole (negative : Bool) (n : Nat) (exponent : Int) : Int :=
      let n : Int := (n <<< (exponent - least).toNat : Nat)
      if negative then -n else n
    let sum := whole a m e + whole b n f
    .ofScaled (if sum = 0 then a && b else decide (sum < 0)) sum.natAbs least

def neg : Binary64 → Binary64
  | .finite negative significand exponent => .finite (!negative) significand exponent
  | .infinite negative => .infinite (!negative)
  | .nan => .nan

def ofNat? (n : Nat) : Option Binary64 :=
  match ofRatio false n 1 with
  | .finite negative significand exponent => some (.finite negative significand exponent)
  | _ => none

def toInt? : Binary64 → Option Int
  | .finite negative significand exponent =>
    let den := 1 <<< (-exponent).toNat
    if significand % den = 0 then
      let n : Int := ((significand / den) <<< exponent.toNat : Nat)
      some (if negative then -n else n)
    else none
  | _ => none

end Binary64
end EndpointManifest
