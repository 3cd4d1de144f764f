import EndpointManifest.Text.Quoted
import EndpointManifest.Text.Utf8

/-!
Why a file cannot be read or written.
-/

namespace EndpointManifest

open Text

inductive Refusal where
  | notFound | exists | notADirectory | isADirectory | nameTooLong
  deriving DecidableEq, Repr

def Refusal.number : Refusal → Nat
  | .notFound => 2
  | .exists => 17
  | .notADirectory => 20
  | .isADirectory => 21
  | .nameTooLong => 36

def Refusal.wording : Refusal → Text
  | .notFound => "No such file or directory".toList
  | .exists => "File exists".toList
  | .notADirectory => "Not a directory".toList
  | .isADirectory => "Is a directory".toList
  | .nameTooLong => "File name too long".toList

inductive FileError where
  /-- The system refuses the path as it was written. -/
  | refused (refusal : Refusal) (path : Text)
  | undecodable (error : Utf8Error)
  /-- A path that holds U+0000 is not even tried. -/
  | nullInPath
  /-- More levels are missing above a directory than are made in one go. -/
  | tooDeep
  deriving DecidableEq, Repr

def FileError.message : FileError → Text
  | .refused refusal path =>
    "[Errno ".toList ++ ofNat refusal.number ++ "] ".toList ++ refusal.wording ++ ": ".toList ++
      quoted path
  | .undecodable error => error.message
  | .nullInPath => "embedded null byte".toList
  | .tooDeep => "maximum recursion depth exceeded".toList

end EndpointManifest
