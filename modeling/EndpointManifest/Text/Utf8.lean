import EndpointManifest.Text.Blank

/-!
UTF-8, read strictly. The first faulty sequence is reported with its bytes: the longest part of it
that some well-formed sequence starts with.
-/

namespace EndpointManifest.Text

inductive Utf8Reason where
  | invalidStart | invalidContinuation | unexpectedEnd
  deriving DecidableEq, Repr

def Utf8Reason.message : Utf8Reason → Text
  | .invalidStart => "invalid start byte".toList
  | .invalidContinuation => "invalid continuation byte".toList
  | .unexpectedEnd => "unexpected end of data".toList

/-- A faulty sequence: the position of its first byte, that byte, and how many bytes it has. -/
structure Utf8Error where
  position : Nat
  byte : UInt8
  length : Nat
  reason : Utf8Reason
  deriving DecidableEq, Repr

/-- What a first byte announces: how many bytes follow, the bits it contributes, and the range of
the byte after it. -/
structure Utf8Lead where
  following : Nat
  bits : Nat
  low : Nat
  high : Nat

def utf8Lead? (b : Nat) : Option Utf8Lead :=
  if b < 0x80 then some ⟨0, b, 0, 0⟩
  else if 0xC2 ≤ b && b ≤ 0xDF then some ⟨1, b - 0xC0, 0x80, 0xBF⟩
  else if b = 0xE0 then some ⟨2, 0, 0xA0, 0xBF⟩
  else if b = 0xED then some ⟨2, 0xD, 0x80, 0x9F⟩
  else if 0xE1 ≤ b && b ≤ 0xEF then some ⟨2, b - 0xE0, 0x80, 0xBF⟩
  else if b = 0xF0 then some ⟨3, 0, 0x90, 0xBF⟩
  else if b = 0xF4 then some ⟨3, 4, 0x80, 0x8F⟩
  else if 0xF1 ≤ b && b ≤ 0xF3 then some ⟨3, b - 0xF0, 0x80, 0xBF⟩
  else none

/-- Reads `following` continuation bytes, the first of them between `low` and `high`. Gives the code
point with the rest, or how many bytes fitted and why the next did not. -/
def utf8Tail (following low high code fitted : Nat) (octets : List UInt8) :
    Except (Nat × Utf8Reason) (Nat × List UInt8) :=
  match following, octets with
  | 0, rest => .ok (code, rest)
  | _ + 1, [] => .error (fitted, .unexpectedEnd)
  | n + 1, b :: rest =>
    if low ≤ b.toNat && b.toNat ≤ high then
      utf8Tail n 0x80 0xBF (code * 64 + (b.toNat - 0x80)) (fitted + 1) rest
    else .error (fitted, .invalidContinuation)

/-- Reads a sequence at a time; `skip` bytes at the front belong to the sequence before. -/
def decodeUtf8From (position skip : Nat) : List UInt8 → Except Utf8Error Text
  | [] => .ok []
  | b :: rest =>
    match skip with
    | skip + 1 => decodeUtf8From (position + 1) skip rest
    | 0 =>
      match utf8Lead? b.toNat with
      | none => .error ⟨position, b, 1, .invalidStart⟩
      | some lead =>
        match utf8Tail lead.following lead.low lead.high lead.bits 1 rest with
        | .error (fitted, reason) => .error ⟨position, b, fitted, reason⟩
        | .ok (code, _) => do
          return Char.ofNat code :: (← decodeUtf8From (position + 1) lead.following rest)

def decodeUtf8 (octets : List UInt8) : Except Utf8Error Text := decodeUtf8From 0 0 octets

/-- Where a sequence starts that goes on after `n` bytes; one of `n` bytes ends there. -/
def sequenceStart (octets : List UInt8) (n : Nat) : Nat :=
  n - ((octets.drop (n - 3)).take (n + 1 - (n - 3))).reverse.findIdx fun b =>
    b.toNat < 0x80 || 0xC0 ≤ b.toNat

/-- The error as it shows when the bytes come in pieces of a size. Positions count from the start of
the piece, or of the sequence that goes on into it; after the last piece, from what is left over. -/
def Utf8Error.inPieces (size : Nat) (octets : List UInt8) (e : Utf8Error) : Utf8Error :=
  let start := match e.reason with
    | .unexpectedEnd => e.position
    | .invalidStart => sequenceStart octets (e.position / size * size)
    | .invalidContinuation =>
      min e.position (sequenceStart octets ((e.position + e.length) / size * size))
  { e with position := e.position - start }

def decodeUtf8InPieces (size : Nat) (octets : List UInt8) : Except Utf8Error Text :=
  (decodeUtf8 octets).mapError (·.inPieces size octets)

def encodeUtf8Char (c : Char) : List UInt8 := (String.utf8EncodeChar c)

def encodeUtf8 (t : Text) : List UInt8 := t.flatMap encodeUtf8Char

/-- Every end of line becomes a line feed: a carriage return alone, and one before a line feed. -/
def normalizeNewlines : Text → Text
  | [] => []
  | '\r' :: '\n' :: rest => '\n' :: normalizeNewlines rest
  | c :: rest => (if c = '\r' then '\n' else c) :: normalizeNewlines rest

/-- `byte 0xff in position 3: invalid start byte`, or the range of positions. -/
def Utf8Error.message (e : Utf8Error) : Text :=
  let hex := Nat.toDigits 16 e.byte.toNat
  let byte := List.replicate (2 - hex.length) '0' ++ hex
  "'utf-8' codec can't decode ".toList ++
    (if e.length = 1 then
      "byte 0x".toList ++ byte ++ " in position ".toList ++ ofNat e.position
    else
      "bytes in position ".toList ++ ofNat e.position ++
        '-' :: ofNat (e.position + e.length - 1)) ++
    ": ".toList ++ e.reason.message

end EndpointManifest.Text
