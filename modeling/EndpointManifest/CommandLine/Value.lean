import EndpointManifest.CommandLine.Failure

/-!
Checks of the values given for options and arguments. Paths are followed as they were written.
-/

namespace EndpointManifest.CommandLine

open Text

def refuse {α : Type} (parameter : Parameter) (error : ValueError) : Except Failure α :=
  .error (.usage (.value parameter error))

/-- The place of a directory, from the root of the disk on. -/
def directory (disk : Disk) (parameter : Parameter) (t : Text) : Except Failure Path :=
  let path := Path.verbatim t
  if Disk.hasNull path then .error .nullInPath
  else if t.isEmpty then refuse parameter (.noSuchDirectory t)
  else match disk.locate path, disk.node? path with
    | .ok location, some (.dir _) => .ok ⟨.root, location⟩
    | _, some (.file _) => refuse parameter (.fileForDirectory t)
    | _, _ => refuse parameter (.noSuchDirectory t)

def file (disk : Disk) (parameter : Parameter) (t : Text) : Except Failure Text :=
  let path := Path.verbatim t
  if Disk.hasNull path then .error .nullInPath
  else if t.isEmpty then refuse parameter (.noSuchFile t)
  else match disk.node? path with
    | none => refuse parameter (.noSuchFile t)
    | some (.dir _) => refuse parameter (.directoryForFile t)
    | some (.file _) => .ok t

/-- Decimal digits of any script. A single underscore may stand between two of them. -/
def digits? : (afterDigit : Bool) → Text → Option (List Nat)
  | afterDigit, [] => if afterDigit then some [] else none
  | afterDigit, c :: rest =>
    match digitValue? c with
    | some d => (digits? true rest).map (d :: ·)
    | none => if c == '_' && afterDigit then digits? false rest else none

def integer? (t : Text) : Option Int :=
  match dropTrailing isNumberBlank (t.dropWhile isNumberBlank) with
  | '-' :: rest => ((digits? false rest).bind natural?).map fun n => -(n : Int)
  | '+' :: rest => ((digits? false rest).bind natural?).map Int.ofNat
  | rest => ((digits? false rest).bind natural?).map Int.ofNat

def positive (parameter : Parameter) (t : Text) : Except Failure Int :=
  match integer? t with
  | none => refuse parameter (.notAnInteger t)
  | some n => if n < 1 then refuse parameter (.belowOne n) else .ok n

end EndpointManifest.CommandLine
