import EndpointManifest.Text.Blank

/-!
Control sequences of terminals, such as those that switch a colour: the escape character, an opening
bracket, parameters, intermediate characters and a final one. They are taken out of what is written
for other readers than a terminal.
-/

namespace EndpointManifest.Text

def isBetween (first last : Nat) (c : Char) : Bool := first ≤ c.toNat && c.toNat ≤ last

/-- The length of a control sequence after the escape character, if the text starts with one. -/
def controlLength? : Text → Option Nat
  | '[' :: rest =>
    let (parameters, rest) := rest.span (isBetween 0x30 0x3F)
    let (intermediates, rest) := rest.span (isBetween 0x20 0x2F)
    if rest.head?.any (isBetween 0x40 0x7E) then
      some (1 + parameters.length + intermediates.length + 1)
    else none
  | _ => none

/-- The text without its control sequences after `skip` more characters of the last one. -/
def withoutControlsFrom : (skip : Nat) → Text → Text
  | _, [] => []
  | skip + 1, _ :: rest => withoutControlsFrom skip rest
  | 0, c :: rest =>
    match if c.toNat = 0x1B then controlLength? rest else none with
    | some length => withoutControlsFrom length rest
    | none => c :: withoutControlsFrom 0 rest

def withoutControls (t : Text) : Text := withoutControlsFrom 0 t

end EndpointManifest.Text
