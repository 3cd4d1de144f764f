import EndpointManifest.Text.Quoted
import EndpointManifest.Text.Similar

/-!
Reading the arguments of a command: which options are given, with which values, and what is left. An
option's value may be attached to it or be the next argument, whatever that looks like.
-/

namespace EndpointManifest.CommandLine

open Text

structure Switch (ι : Type) where
  option : ι
  /-- The name with its two dashes. -/
  long : Text
  short : Option Char := none
  takesValue : Bool := false
  deriving Repr

inductive SwitchError where
  /-- Names of options that are close to the unknown one go with it. -/
  | unknown (name : Text) (close : List Text)
  | valueMissing (name : Text)
  | valueNotTaken (name : Text)
  deriving DecidableEq, Repr

def suggestion : (close : List Text) → Text
  | [] => []
  | [name] => " Did you mean ".toList ++ quoted name ++ ['?']
  | names => " (Did you mean one of: ".toList ++ join ", ".toList (names.map quoted) ++ "?)".toList

def SwitchError.message : SwitchError → Text
  | .unknown name close => "No such option ".toList ++ quoted name ++ ['.'] ++ suggestion close
  | .valueMissing name => "Option ".toList ++ quoted name ++ " requires an argument.".toList
  | .valueNotTaken name => "Option ".toList ++ quoted name ++ " does not take a value.".toList

/-- What the arguments say, in their order. An option without a value has the empty one. -/
structure Given (ι : Type) where
  options : List (ι × Text) := []
  arguments : List Text := []
  deriving Repr

namespace Given

variable {ι : Type} [BEq ι]

def has (g : Given ι) (option : ι) : Bool := g.options.any (·.1 == option)

def value? (g : Given ι) (option : ι) : Option Text := g.options.reverse.lookup option

def names (g : Given ι) : List ι := (g.options.map (·.1)).eraseDups

end Given

namespace Switch

variable {ι : Type}

/-- The options in one argument, and the one, with the name it was called by, whose value is still
to come. -/
structure Reading (ι : Type) where
  options : List (ι × Text) := []
  awaiting : Option (Text × ι) := none

def splitValue (arg : Text) : Text × Option Text :=
  match arg.span (· ≠ '=') with
  | (name, _ :: value) => (name, some value)
  | (name, []) => (name, none)

def readLong (switch : Switch ι) (name : Text) : Option Text → Except SwitchError (Reading ι)
  | some value =>
    if switch.takesValue then .ok { options := [(switch.option, value)] }
    else .error (.valueNotTaken name)
  | none =>
    if switch.takesValue then .ok { awaiting := some (name, switch.option) }
    else .ok { options := [(switch.option, [])] }

/-- Reads a run of short names. What follows one that takes a value is the value. -/
def readShort (switches : List (Switch ι)) : Text → Except SwitchError (Reading ι)
  | [] => .ok {}
  | c :: rest =>
    match switches.find? (·.short == some c) with
    | none => .error (.unknown ['-', c] [])
    | some switch =>
      if switch.takesValue then
        if rest.isEmpty then .ok { awaiting := some (['-', c], switch.option) }
        else .ok { options := [(switch.option, rest)] }
      else do
        let more ← readShort switches rest
        return { more with options := (switch.option, []) :: more.options }

/-- Reads an argument that starts with a dash. Long names come first. -/
def read (switches : List (Switch ι)) (arg : Text) : Except SwitchError (Reading ι) :=
  let (name, value) := splitValue arg
  match switches.find? (·.long == name) with
  | some switch => switch.readLong name value
  | none =>
    if startsWith ['-', '-'] arg then
      .error (.unknown name (closeNames name (switches.map (·.long))))
    else readShort switches (arg.drop 1)

/-- Whether an argument names options. A dash alone does not. -/
def isDashed : Text → Bool
  | '-' :: _ :: _ => true
  | _ => false

/-- Reads arguments up to two dashes, which end the options. Unless the command is `mixed`, so does
the first argument that is not one. -/
def readAll (switches : List (Switch ι)) (mixed : Bool) : List Text → Except SwitchError (Given ι)
  | [] => .ok {}
  | arg :: rest =>
    if arg = ['-', '-'] then .ok { arguments := rest }
    else if isDashed arg then
      match read switches arg with
      | .error e => .error e
      | .ok ⟨options, none⟩ =>
        (readAll switches mixed rest).map fun g => { g with options := options ++ g.options }
      | .ok ⟨options, some (name, option)⟩ =>
        match rest with
        | [] => .error (.valueMissing name)
        | value :: rest =>
          (readAll switches mixed rest).map fun g =>
            { g with options := options ++ (option, value) :: g.options }
    else if mixed then
      (readAll switches mixed rest).map fun g => { g with arguments := arg :: g.arguments }
    else .ok { arguments := arg :: rest }

end Switch
end EndpointManifest.CommandLine
