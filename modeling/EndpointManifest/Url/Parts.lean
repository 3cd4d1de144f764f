import EndpointManifest.Text.LetterCase
import EndpointManifest.Text.Quoted
import EndpointManifest.Url.Address

/-!
The parts of a URL as far as naming needs them: scheme, authority and path. An authority with a
misplaced bracket, or with a character that would turn into a separator, makes the URL invalid.
-/

namespace EndpointManifest.Url

open Text

inductive UrlError where
  | brackets
  | futureAddress
  | notAnAddress (host : Text)
  | address4InBrackets
  | separatorInDisguise (authority : Text)
  deriving DecidableEq, Repr

def UrlError.message : UrlError → Text
  | .brackets => "Invalid IPv6 URL".toList
  | .futureAddress => "IPvFuture address is invalid".toList
  | .notAnAddress host => quoted host ++ " does not appear to be an IPv4 or IPv6 address".toList
  | .address4InBrackets => "An IPv4 address cannot be in brackets".toList
  | .separatorInDisguise authority =>
    "netloc '".toList ++ authority ++
      "' contains invalid characters under NFKC normalization".toList

structure Parts where
  scheme : Text
  authority : Text
  path : Text
  deriving DecidableEq, Repr

/-- Characters whose compatibility form holds one of `/ ? # @ :`. -/
def separatorsInDisguise : List Nat :=
  [0x2047, 0x2048, 0x2049, 0x2100, 0x2101, 0x2105, 0x2106, 0x2A74, 0xFE13, 0xFE16, 0xFE55, 0xFE56,
   0xFE5F, 0xFE6B, 0xFF03, 0xFF0F, 0xFF1A, 0xFF1F, 0xFF20]

def schemesWithParameters : List Text :=
  ["", "ftp", "hdl", "prospero", "http", "imap", "https", "shttp", "rtsp", "rtspu", "sip", "sips",
   "mms", "sftp", "tel"].map String.toList

def isSchemeChar (c : Char) : Bool :=
  isAsciiLetter c || isAsciiDigit c || c == '+' || c == '-' || c == '.'

/-- Control characters and spaces at the front are dropped, tabs and line ends everywhere. -/
def strip (t : Text) : Text :=
  (t.dropWhile fun c => c.toNat ≤ 0x20).filter fun c => c != '\t' && c != '\r' && c != '\n'

/-- The scheme in small letters, and the text after its colon; without scheme, the whole text. -/
def splitScheme (t : Text) : Text × Text :=
  match t.span (· != ':') with
  | (c :: name, _ :: rest) =>
    if isAsciiLetter c && name.all isSchemeChar then (lower (c :: name), rest) else ([], t)
  | _ => ([], t)

def splitAuthority (t : Text) : Text × Text :=
  match t with
  | '/' :: '/' :: rest => rest.span fun c => c != '/' && c != '?' && c != '#'
  | _ => ([], t)

def afterLast (sep : Char) (t : Text) : Text := (t.reverse.takeWhile (· != sep)).reverse

/-- The host between brackets, or, when no bracket follows the user, up to the colon that may end
it. -/
def bracketedHost (authority : Text) : Except UrlError Text :=
  let server := afterLast '@' authority
  match server.span (· != '[') with
  | (user, _ :: bracketed) =>
    let (host, rest) := bracketed.span (· != ']')
    let tail := rest.drop 1
    if !user.isEmpty || !(tail.isEmpty || tail.head? = some ':') then .error .brackets else .ok host
  | (all, []) => .ok (all.takeWhile (· != ':'))

def isFutureAddress (host : Text) : Bool :=
  match host with
  | 'v' :: rest =>
    let (digits, rest) := rest.span isHexDigit
    !digits.isEmpty && rest.head? = some '.' && rest.length > 1 && !rest.contains '\n'
  | _ => false

def checkHost (host : Text) : Except UrlError Unit :=
  if host.head? = some 'v' then
    if isFutureAddress host then .ok () else .error .futureAddress
  else if isAddress4 host then .error .address4InBrackets
  else if isAddress6 host then .ok ()
  else .error (.notAnAddress host)

def checkBrackets (authority : Text) : Except UrlError Unit :=
  match authority.contains '[', authority.contains ']' with
  | true, true => do checkHost (← bracketedHost authority)
  | false, false => .ok ()
  | _, _ => .error .brackets

def checkSeparators (authority : Text) : Except UrlError Unit :=
  if authority.any fun c => separatorsInDisguise.contains c.toNat then
    .error (.separatorInDisguise authority)
  else .ok ()

def dropParameters (path : Text) : Text :=
  let last := afterLast '/' path
  path.take (path.length - last.length) ++ last.takeWhile (· != ';')

def parts (url : Text) : Except UrlError Parts := do
  let (scheme, rest) := splitScheme (strip url)
  let (authority, rest) := splitAuthority rest
  checkBrackets authority
  checkSeparators authority
  let path := rest.takeWhile fun c => c != '#' && c != '?'
  return ⟨scheme, authority,
    if schemesWithParameters.contains scheme then dropParameters path else path⟩

end EndpointManifest.Url
