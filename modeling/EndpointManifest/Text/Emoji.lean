import EndpointManifest.Text.LetterCase
import EndpointManifest.Text.Table.Emoji
import EndpointManifest.Text.Table.EmojiSequence

/-!
Emoji by their names, and the texts that write them as a name between colons.
-/

namespace EndpointManifest.Text

def skinTones : List (Text × Nat) :=
  [("_light_skin_tone", 0x1F3FB), ("_medium-light_skin_tone", 0x1F3FC),
    ("_medium_skin_tone", 0x1F3FD), ("_medium-dark_skin_tone", 0x1F3FE),
    ("_dark_skin_tone", 0x1F3FF)].map fun (ending, modifier) => (ending.toList, modifier)

def pictureMark : Nat := 0xFE0F

def plainMark : Nat := 0xFE0E

def untoned? (name : String) : Option (List Nat) :=
  match Table.emoji.lookup name with
  | some n => some [n]
  | none => Table.emojiSequences.lookup name

/-- A tone goes behind the first character, in the place of the mark that may stand there. -/
def withTone (modifier : Nat) : List Nat → List Nat
  | [] => []
  | first :: rest => first :: modifier :: if rest.head? = some pictureMark then rest.tail else rest

def toned? (name : Text) : Option (List Nat) :=
  skinTones.findSome? fun (ending, modifier) =>
    let base := String.ofList (name.take (name.length - ending.length))
    if endsWith ending name && Table.tonedEmoji.contains base then
      (untoned? base).map (withTone modifier)
    else none

/-- A flag is the code of its region in letters of their own, from U+1F1E6 on. -/
def flagOf (code : String) : List Nat := code.toList.map fun c => c.toNat - 65 + 0x1F1E6

def flag? (name : Text) : Option (List Nat) :=
  let region := if startsWith "flag_for_".toList name then name.drop 9 else name
  match Table.regions.lookup (String.ofList region) with
  | some code => some (flagOf code)
  | none => (Table.flagNames.lookup (String.ofList name)).map flagOf

def emoji? (name : Text) : Option Text :=
  ((untoned? (String.ofList name)).or ((toned? name).or (flag? name))).map (·.map Char.ofNat)

/-- The name between two colons, if the text is what follows the first of them. -/
def emojiName? (t : Text) : Option Text :=
  let (name, rest) := t.span fun c => c != ':' && !isBlank c
  if rest.head? = some ':' then some name else none

/-- The name without an ending that asks for a variant, and the mark of that variant. -/
def splitVariant (name : Text) : Text × Text :=
  if endsWith "-emoji".toList name then (name.take (name.length - 6), [Char.ofNat pictureMark])
  else if endsWith "-text".toList name then (name.take (name.length - 5), [Char.ofNat plainMark])
  else (name, [])

/-- What is shown for a name between colons; a name that nothing has is left as it is. -/
def shownEmoji (name : Text) : Text :=
  let (base, mark) := splitVariant name
  match emoji? (lower base) with
  | some emoji => emoji ++ mark
  | none => ':' :: name ++ [':']

/-- The text with its emoji after `skip` more characters of the last name. -/
def showEmojiFrom : (skip : Nat) → Text → Text
  | _, [] => []
  | skip + 1, _ :: rest => showEmojiFrom skip rest
  | 0, c :: rest =>
    match if c = ':' then emojiName? rest else none with
    | some name => shownEmoji name ++ showEmojiFrom (name.length + 1) rest
    | none => c :: showEmojiFrom 0 rest

def showEmoji (t : Text) : Text := showEmojiFrom 0 t

end EndpointManifest.Text
