import EndpointManifest.Yaml.Error

/-!
Dates and times: their forms, and the check that a calendar has them. A plain scalar is one only if
a date without time stands in full figures.
-/

namespace EndpointManifest.Yaml

open Text

/-- A time of day with its distance from universal time in minutes, if it is given in figures. -/
structure TimeOfDay where
  hour : Nat
  minute : Nat
  second : Nat
  zone : Option Int := none
  deriving Repr

structure Moment where
  year : Nat
  month : Nat
  day : Nat
  time : Option TimeOfDay := none
  deriving Repr

namespace Moment

def digits? (least most : Nat) (t : Text) : Option (Nat × Text) :=
  let run := (t.take most).takeWhile isAsciiDigit
  if run.length < least then none else some (natOfDigits run, t.drop run.length)

def after? (c : Char) : Text → Option Text
  | [] => none
  | d :: rest => if c = d then some rest else none

def skipSpace (t : Text) : Text := t.dropWhile fun c => c == ' ' || c == '\t'

/-- Nothing, `Z`, or a sign with hours and possibly minutes. -/
def zone? (t : Text) : Option (Option Int) :=
  if t.isEmpty then some none
  else match skipSpace t with
    | ['Z'] => some none
    | sign :: rest => do
      guard (sign = '+' || sign = '-')
      let (hours, rest) ← digits? 1 2 rest
      let (minutes, rest) ← match after? ':' rest with
        | some rest => digits? 2 2 rest
        | none => some (0, rest)
      guard rest.isEmpty
      let distance : Int := hours * 60 + minutes
      return some (if sign = '-' then -distance else distance)
    | [] => none

/-- The time after a date: `T` or blanks, the figures, perhaps a fraction and a zone. -/
def time? (t : Text) : Option TimeOfDay := do
  let rest ← match t with
    | 'T' :: rest | 't' :: rest => some rest
    | _ => if (skipSpace t).length < t.length then some (skipSpace t) else none
  let (hour, rest) ← digits? 1 2 rest
  let (minute, rest) ← digits? 2 2 (← after? ':' rest)
  let (second, rest) ← digits? 2 2 (← after? ':' rest)
  let rest := match rest with
    | '.' :: rest => rest.dropWhile isAsciiDigit
    | _ => rest
  return { hour, minute, second, zone := ← zone? rest }

def ofText? (t : Text) : Option Moment := do
  let (year, rest) ← digits? 4 4 t
  let (month, rest) ← digits? 1 2 (← after? '-' rest)
  let (day, rest) ← digits? 1 2 (← after? '-' rest)
  if rest.isEmpty then return { year, month, day }
  else return { year, month, day, time := some (← time? rest) }

def isPlain (t : Text) : Bool := (ofText? t).any fun m => m.time.isSome || t.length = 10

def isLeap (year : Nat) : Bool := year % 4 = 0 && (year % 100 ≠ 0 || year % 400 = 0)

def daysIn (year month : Nat) : Nat :=
  if month = 2 then if isLeap year then 29 else 28
  else if month = 4 || month = 6 || month = 9 || month = 11 then 30
  else 31

/-- The zone is checked first, then the date from the year on, then the time. -/
def check (m : Moment) : Except Error Unit := do
  if let some distance := m.time.bind (·.zone) then
    if distance.natAbs ≥ 1440 then throw (.zoneRange distance)
  if m.year = 0 then throw (.yearRange m.year)
  if m.month = 0 || m.month > 12 then throw .monthRange
  if m.day = 0 || m.day > daysIn m.year m.month then throw .dayRange
  if let some time := m.time then
    if time.hour > 23 then throw .hourRange
    if time.minute > 59 then throw .minuteRange
    if time.second > 59 then throw .secondRange

end Moment
end EndpointManifest.Yaml
