import EndpointManifest.Text.Blank
import EndpointManifest.Text.Table.Alphanumeric
import EndpointManifest.Text.Table.DecimalDigit
import EndpointManifest.Text.Table.Unprintable

/-!
The classes of characters that source text is read by: word characters, the identifiers and keys
built from them, decimal digits, quotes.
-/

namespace EndpointManifest.Text

def isAsciiLower (c : Char) : Bool := 'a' ≤ c && c ≤ 'z'

def isAsciiUpper (c : Char) : Bool := 'A' ≤ c && c ≤ 'Z'

def isAsciiLetter (c : Char) : Bool := isAsciiLower c || isAsciiUpper c

def isAsciiDigit (c : Char) : Bool := '0' ≤ c && c ≤ '9'

def isHexDigit (c : Char) : Bool :=
  isAsciiDigit c || ('a' ≤ c && c ≤ 'f') || ('A' ≤ c && c ≤ 'F')

def hexValue? (c : Char) : Option Nat :=
  if isAsciiDigit c then some (c.toNat - 48)
  else if 'a' ≤ c && c ≤ 'f' then some (c.toNat - 87)
  else if 'A' ≤ c && c ≤ 'F' then some (c.toNat - 55)
  else none

def natOfDigits (digits : Text) : Nat := digits.foldl (fun n c => n * 10 + (c.toNat - 48)) 0

/-- Letters and numeric characters of every script; combining marks are neither. -/
def isAlphanumeric (c : Char) : Bool :=
  if c.toNat < 128 then isAsciiLetter c || isAsciiDigit c else Table.alphanumeric.contains c.toNat

def isWord (c : Char) : Bool := isAlphanumeric c || c == '_'

def isNameChar (c : Char) : Bool := isWord c || c == '$'

def isNameStart (c : Char) : Bool := isAsciiLetter c || c == '_' || c == '$'

def isKeyChar (c : Char) : Bool := isNameChar c || c == '-'

def isPathChar (c : Char) : Bool := isNameChar c || c == '.'

def digitValue? (c : Char) : Option Nat :=
  (Table.decimalZeros.find? fun z => z ≤ c.toNat && c.toNat < z + 10).map fun z => c.toNat - z

def isQuote (c : Char) : Bool := c == '\'' || c == '"' || c == '`'

/-- A whole number in decimal digits may have as many; a longer one is not read or
written. -/
def maxDigits : Nat := 4300

/-- The number that decimal digits of any script write, unless they are too many. -/
def natural? (digits : List Nat) : Option Nat :=
  if digits.length ≤ maxDigits then some (digits.foldl (fun n d => n * 10 + d) 0) else none

def wordEdge (before : Option Char) (t : Text) : Bool :=
  before.any isWord != t.head?.any isWord

/-- Whether a quoted text shows the character itself. -/
def isPrintable (c : Char) : Bool :=
  if c.toNat < 128 then 0x20 ≤ c.toNat && c.toNat < 0x7F else !Table.unprintable.contains c.toNat

end EndpointManifest.Text
