import EndpointManifest.Json.Basic
import EndpointManifest.Text.CharClass

/-!
JSON text over several lines: two spaces for each level, a member or item a line, `{}` and `[]` for
empty containers. Only what JSON requires is escaped; other characters stand for themselves. A value
that is too deep is not printed, nor is one with a number that has too many digits.
-/

namespace EndpointManifest.Json

open Text (maxDigits)

def hexDigit (n : Nat) : Char := if n < 10 then Char.ofNat (48 + n) else Char.ofNat (87 + n)

def escapeChar (c : Char) : Text :=
  if c = '"' then ['\\', '"']
  else if c = '\\' then ['\\', '\\']
  else if c = '\n' then ['\\', 'n']
  else if c = '\r' then ['\\', 'r']
  else if c = '\t' then ['\\', 't']
  else if c.toNat = 8 then ['\\', 'b']
  else if c.toNat = 12 then ['\\', 'f']
  else if c.toNat < 32 then
    ['\\', 'u', '0', '0', hexDigit (c.toNat / 16), hexDigit (c.toNat % 16)]
  else [c]

def renderString (s : Text) : Text := '"' :: s.flatMap escapeChar ++ ['"']

def renderInt (n : Int) : Text :=
  if n < 0 then '-' :: Text.ofNat n.natAbs else Text.ofNat n.natAbs

def newLine (level : Nat) : Text := '\n' :: List.replicate (2 * level) ' '

mutual

/-- The text of a value whose first line stands at the given level. -/
def renderAt (level : Nat) : Json → Text
  | .null => "null".toList
  | .bool true => "true".toList
  | .bool false => "false".toList
  | .int n => renderInt n
  | .str s => renderString s
  | .arr [] => ['[', ']']
  | .arr (item :: items) =>
    '[' :: newLine (level + 1) ++ renderAt (level + 1) item ++ renderItems (level + 1) items ++
      newLine level ++ [']']
  | .obj [] => ['{', '}']
  | .obj ((key, value) :: members) =>
    '{' :: newLine (level + 1) ++ renderString key ++ [':', ' '] ++ renderAt (level + 1) value ++
      renderMembers (level + 1) members ++ newLine level ++ ['}']

def renderItems (level : Nat) : List Json → Text
  | [] => []
  | item :: items => ',' :: newLine level ++ renderAt level item ++ renderItems level items

def renderMembers (level : Nat) : List (Text × Json) → Text
  | [] => []
  | (key, value) :: members =>
    ',' :: newLine level ++ renderString key ++ [':', ' '] ++ renderAt level value ++
      renderMembers level members

end

inductive PrintError where
  | tooManyDigits
  | tooDeep
  deriving DecidableEq, Repr

def PrintError.message : PrintError → Text
  | .tooManyDigits =>
    "Exceeds the limit (".toList ++ Text.ofNat maxDigits ++
      " digits) for integer string conversion; ".toList ++
      "use sys.set_int_max_str_digits() to increase the limit".toList
  | .tooDeep => "maximum recursion depth exceeded".toList

mutual

/-- The first thing, in the order of printing, that keeps a value from being printed where lists and
objects may lie so many levels deep in one another. -/
def refusal? (levels : Nat) : Json → Option PrintError
  | .null | .bool _ | .str _ => none
  | .int n => if maxDigits < (Text.ofNat n.natAbs).length then some .tooManyDigits else none
  | .arr items =>
    match levels with
    | 0 => some .tooDeep
    | levels + 1 => itemsRefusal? levels items
  | .obj members =>
    match levels with
    | 0 => some .tooDeep
    | levels + 1 => membersRefusal? levels members

def itemsRefusal? (levels : Nat) : List Json → Option PrintError
  | [] => none
  | item :: items => (refusal? levels item).or (itemsRefusal? levels items)

def membersRefusal? (levels : Nat) : List (Text × Json) → Option PrintError
  | [] => none
  | (_, value) :: members => (refusal? levels value).or (membersRefusal? levels members)

end

def render (levels : Nat) (j : Json) : Except PrintError Text :=
  match refusal? levels j with
  | some e => .error e
  | none => .ok (renderAt 0 j)

end EndpointManifest.Json
