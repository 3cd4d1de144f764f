import EndpointManifest.Json.Basic
import EndpointManifest.Text.CharClass

/-!
Reading JSON text without fractions. `read?` takes a whole text that holds one value between blanks;
the readers under it take a value, or a part of one, off the front and give the rest.
-/

namespace EndpointManifest.Json

open Text (isAsciiDigit hexValue? maxDigits natOfDigits)

def skipSpace (t : Text) : Text :=
  t.dropWhile fun c => c == ' ' || c == '\t' || c == '\n' || c == '\r'

def unit? (a b c d : Char) : Option Nat := do
  return ((← hexValue? a) * 16 + (← hexValue? b)) * 256 + (← hexValue? c) * 16 + (← hexValue? d)

def escaped? (c : Char) : Option Char :=
  if c = '"' || c = '\\' || c = '/' then some c
  else if c = 'n' then some '\n'
  else if c = 'r' then some '\r'
  else if c = 't' then some '\t'
  else if c = 'b' then some '\x08'
  else if c = 'f' then some '\x0c'
  else none

/-- The content of a string after its opening quote. Two escaped surrogates make one character; one
alone is refused. -/
def stringRest? : Text → Option (Text × Text)
  | [] => none
  | '"' :: rest => some ([], rest)
  | '\\' :: 'u' :: a :: b :: c :: d :: rest =>
    match unit? a b c d with
    | none => none
    | some n =>
      if 0xD800 ≤ n && n < 0xDC00 then
        match rest with
        | '\\' :: 'u' :: e :: f :: g :: h :: rest =>
          match unit? e f g h with
          | none => none
          | some m =>
            if 0xDC00 ≤ m && m < 0xE000 then
              (stringRest? rest).map fun (s, rest) =>
                (Char.ofNat (0x10000 + (n - 0xD800) * 0x400 + (m - 0xDC00)) :: s, rest)
            else none
        | _ => none
      else if 0xDC00 ≤ n && n < 0xE000 then none
      else (stringRest? rest).map fun (s, rest) => (Char.ofNat n :: s, rest)
  | '\\' :: c :: rest =>
    match escaped? c with
    | none => none
    | some c => (stringRest? rest).map fun (s, rest) => (c :: s, rest)
  | c :: rest =>
    if c.toNat < 32 || c = '\\' then none
    else (stringRest? rest).map fun (s, rest) => (c :: s, rest)

/-- A whole number without sign. A leading zero stands alone. -/
def number? (negative : Bool) (t : Text) : Option (Json × Text) :=
  let (digits, rest) : Text × Text :=
    match t with
    | '0' :: rest => (['0'], rest)
    | _ => t.span isAsciiDigit
  if digits.isEmpty || maxDigits < digits.length then none
  else some (.int (if negative then -natOfDigits digits else natOfDigits digits), rest)

def literal? (t : Text) : Option (Json × Text) :=
  match t with
  | 'n' :: 'u' :: 'l' :: 'l' :: rest => some (.null, rest)
  | 't' :: 'r' :: 'u' :: 'e' :: rest => some (.bool true, rest)
  | 'f' :: 'a' :: 'l' :: 's' :: 'e' :: rest => some (.bool false, rest)
  | '-' :: rest => number? true rest
  | _ => number? false t

mutual

/-- A value at the front of a text without leading blanks, with so many levels of lists and objects
in it. The fuel bounds the number of values; the length of the text is enough. -/
def value? : (levels fuel : Nat) → Text → Option (Json × Text)
  | _, 0, _ => none
  | levels, fuel + 1, t =>
    match t with
    | '"' :: rest => (stringRest? rest).map fun (s, rest) => (.str s, rest)
    | '[' :: rest =>
      match levels with
      | 0 => none
      | levels + 1 =>
        match skipSpace rest with
        | ']' :: rest => some (.arr [], rest)
        | rest => (items? levels fuel rest).map fun (items, rest) => (.arr items, rest)
    | '{' :: rest =>
      match levels with
      | 0 => none
      | levels + 1 =>
        match skipSpace rest with
        | '}' :: rest => some (.obj [], rest)
        | rest => (members? levels fuel rest).map fun (members, rest) => (.obj members, rest)
    | _ => literal? t

def items? : (levels fuel : Nat) → Text → Option (List Json × Text)
  | _, 0, _ => none
  | levels, fuel + 1, t =>
    match value? levels fuel t with
    | none => none
    | some (item, rest) =>
      match skipSpace rest with
      | ']' :: rest => some ([item], rest)
      | ',' :: rest =>
        (items? levels fuel (skipSpace rest)).map fun (items, rest) => (item :: items, rest)
      | _ => none

def members? : (levels fuel : Nat) → Text → Option (List (Text × Json) × Text)
  | _, 0, _ => none
  | levels, fuel + 1, t =>
    match t with
    | '"' :: rest =>
      match stringRest? rest with
      | none => none
      | some (key, rest) =>
        match skipSpace rest with
        | ':' :: rest =>
          match value? levels fuel (skipSpace rest) with
          | none => none
          | some (value, rest) =>
            match skipSpace rest with
            | '}' :: rest => some ([(key, value)], rest)
            | ',' :: rest =>
              (members? levels fuel (skipSpace rest)).map fun (members, rest) =>
                ((key, value) :: members, rest)
            | _ => none
        | _ => none
    | _ => none

end

def read? (levels : Nat) (t : Text) : Option Json :=
  match value? levels (2 * t.length + 1) (skipSpace t) with
  | some (j, rest) => if (skipSpace rest).isEmpty then some j else none
  | none => none

end EndpointManifest.Json
