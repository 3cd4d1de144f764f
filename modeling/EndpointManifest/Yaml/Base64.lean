import EndpointManifest.Text.CharClass

/-!
Bytes written with sixty-four signs, six bits each. Other characters are passed over, also equals
signs that do not end the data.
-/

namespace EndpointManifest.Yaml.Base64

open Text

def sextet? (c : Char) : Option Nat :=
  if isAsciiUpper c then some (c.toNat - 65)
  else if isAsciiLower c then some (c.toNat - 71)
  else if isAsciiDigit c then some (c.toNat + 4)
  else if c = '+' then some 62
  else if c = '/' then some 63
  else none

/-- Reads on after `count` signs of a group of four, of which the last left `bits` over, and after
`equals` equals signs. A group that has begun must be filled up with equals signs. -/
def decodeFrom (count bits equals : Nat) : Text → Option (List UInt8)
  | [] => if count = 0 then some [] else none
  | c :: rest =>
    if c = '=' then
      if count ≥ 2 then
        if count + equals + 1 ≥ 4 then some [] else decodeFrom count bits (equals + 1) rest
      else decodeFrom count bits equals rest
    else match sextet? c, count with
      | none, _ => decodeFrom count bits equals rest
      | some n, 0 => decodeFrom 1 n 0 rest
      | some n, 1 => (decodeFrom 2 (n % 16) 0 rest).map (UInt8.ofNat (bits * 4 + n / 16) :: ·)
      | some n, 2 => (decodeFrom 3 (n % 4) 0 rest).map (UInt8.ofNat (bits * 16 + n / 4) :: ·)
      | some n, _ => (decodeFrom 0 0 0 rest).map (UInt8.ofNat (bits * 64 + n) :: ·)

/-- The bytes, unless the text has characters beyond ASCII or ends within a group. -/
def decode? (t : Text) : Option (List UInt8) :=
  if t.all fun c => c.toNat < 128 then decodeFrom 0 0 0 t else none

end EndpointManifest.Yaml.Base64
