import EndpointManifest.Text.CharClass

/-!
Internet addresses in their written forms: four decimal octets, or eight groups of hexadecimal
digits of which one run of zeros may be left out.
-/

namespace EndpointManifest.Url

open Text

/-- One to three digits up to 255, without a leading zero. -/
def isOctet (t : Text) : Bool :=
  !t.isEmpty && t.all isAsciiDigit && t.length ≤ 3 && (t = ['0'] || t.head? != some '0') &&
    natOfDigits t ≤ 255

def isAddress4 (t : Text) : Bool :=
  let octets := splitOn '.' t
  octets.length == 4 && octets.all isOctet

def isHexGroup (t : Text) : Bool := !t.isEmpty && t.length ≤ 4 && t.all isHexDigit

/-- Groups with one run left out, which stands for at least one group of zeros. The groups before or
after the run may be missing altogether; then the text has one more empty part at that end. -/
def isAbridged (front back : List Text) : Bool :=
  let front := if front.head? = some [] then front.tail else front
  let backOpen := back.getLast? = some []
  let back := if backOpen then back.dropLast else back
  front.all isHexGroup && back.all isHexGroup && front.length + back.length < 8

/-- The groups of an address, the two last ones possibly written as four octets. -/
def isGroups (parts : List Text) : Bool :=
  let last := parts.getLast?.getD []
  if last.contains '.' && !isAddress4 last then false
  else
    let parts := if last.contains '.' then parts.dropLast ++ [['0'], ['0']] else parts
    if parts.length > 9 then false
    else
      let inner := (parts.drop 1).dropLast
      match inner.findIdx? (·.isEmpty) with
      | none => parts.length == 8 && parts.all isHexGroup
      | some i =>
        let front := parts.take (i + 1)
        let back := parts.drop (i + 2)
        !(inner.drop (i + 1)).any (·.isEmpty) &&
          (front.head? != some [] || front.length == 1) &&
          (back.getLast? != some [] || back.length == 1) && isAbridged front back

def isAddress6 (t : Text) : Bool :=
  let (address, zone) := t.span (· != '%')
  let zoneFits := zone.isEmpty || (zone.length > 1 && !(zone.drop 1).contains '%')
  let parts := splitOn ':' address
  zoneFits && parts.length ≥ 3 && isGroups parts

end EndpointManifest.Url
