import EndpointManifest.Text.Reader

/-!
Searching a text from the left. A pattern sees the character before a position and the text from
there; `findAll` gives its matches, leftmost first, none overlapping the one before.
-/

namespace EndpointManifest.Text

/-- What a pattern recognises at the front of a text that `before` precedes, and the text after it.
A pattern takes at least one character. -/
abbrev Pattern (α : Type) := (before : Option Char) → Text → Option (α × Text)

/-- A match: where it starts and what was recognised. -/
structure Found (α : Type) where
  start : Nat
  value : α
  deriving Repr

/-- Matches from position `pos` on, after `skip` more characters that belong to the last match. -/
def findAllFrom {α : Type} (p : Pattern α) : (before : Option Char) → (pos skip : Nat) → Text →
    List (Found α)
  | _, _, _, [] => []
  | _, pos, skip + 1, c :: rest => findAllFrom p (some c) (pos + 1) skip rest
  | before, pos, 0, c :: rest =>
    match p before (c :: rest) with
    | some (value, after) =>
      ⟨pos, value⟩ :: findAllFrom p (some c) (pos + 1) (rest.length - after.length) rest
    | none => findAllFrom p (some c) (pos + 1) 0 rest

def findAll {α : Type} (p : Pattern α) (t : Text) : List (Found α) := findAllFrom p none 0 0 t

def find? {α : Type} (p : Pattern α) (t : Text) : Option (Found α) := (findAll p t).head?

end EndpointManifest.Text
