import EndpointManifest.Yaml.Content

/-!
Why a settings file in YAML gives no value: its text is malformed, or a scalar has the form of its
tag and yet stands for nothing.
-/

namespace EndpointManifest.Yaml

open Text

inductive Error where
  | malformed
  /-- Collections stand inside each other too many times over. -/
  | tooDeep
  /-- An escape by number beyond the last character. -/
  | noCharacter
  /-- An escape by a number of more than 31 bits. -/
  | noCodePoint
  | notInt (base : Nat) (digits : Content)
  | tooManyDigits (count : Nat)
  | notReal (digits : Content)
  /-- A group of a number to base sixty whose weight no real number reaches. -/
  | weightRange
  | emptyNumber
  | notTruth (name : Content)
  | notMoment
  /-- A moment that is written as a mapping. -/
  | momentOfMapping
  | yearRange (year : Nat)
  | monthRange
  | dayRange
  | hourRange
  | minuteRange
  | secondRange
  /-- A distance from universal time of a day or more, in minutes. -/
  | zoneRange (minutes : Int)
  deriving DecidableEq, Repr

def spanText (minutes : Int) : Text :=
  let days := minutes.fdiv 1440
  let seconds := minutes.fmod 1440 * 60
  "datetime.timedelta(days=".toList ++ (if days < 0 then ['-'] else []) ++ ofNat days.natAbs ++
    (if seconds = 0 then [] else ", seconds=".toList ++ ofNat seconds.natAbs) ++ [')']

/-- Of a text that is no integer, messages show as many characters, with the opening quote. -/
def shownLength : Nat := 200

def Error.message : Error → Text
  | .malformed => "malformed".toList
  | .tooDeep => "maximum recursion depth exceeded".toList
  | .noCharacter => "chr() arg not in range(0x110000)".toList
  | .noCodePoint => "signed integer is greater than maximum".toList
  | .notInt base digits =>
    "invalid literal for int() with base ".toList ++ ofNat base ++ ": ".toList ++
      digits.quoted.take shownLength
  | .tooManyDigits count =>
    "Exceeds the limit (".toList ++ ofNat maxDigits ++
      " digits) for integer string conversion: value has ".toList ++ ofNat count ++
      " digits; use sys.set_int_max_str_digits() to increase the limit".toList
  | .notReal digits => "could not convert string to float: ".toList ++ digits.quoted
  | .weightRange => "int too large to convert to float".toList
  | .emptyNumber => "string index out of range".toList
  | .notTruth name => name.quoted
  | .notMoment => "'NoneType' object has no attribute 'groupdict'".toList
  | .momentOfMapping => "expected string or bytes-like object, got 'list'".toList
  | .yearRange year => "year ".toList ++ ofNat year ++ " is out of range".toList
  | .monthRange => "month must be in 1..12".toList
  | .dayRange => "day is out of range for month".toList
  | .hourRange => "hour must be in 0..23".toList
  | .minuteRange => "minute must be in 0..59".toList
  | .secondRange => "second must be in 0..59".toList
  | .zoneRange minutes =>
    ("offset must be a timedelta strictly between -timedelta(hours=24) and " ++
      "timedelta(hours=24), not ").toList ++ spanText minutes ++ ['.']

end EndpointManifest.Yaml
