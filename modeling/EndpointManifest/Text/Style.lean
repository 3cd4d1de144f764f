import EndpointManifest.Assoc
import EndpointManifest.Text.LetterCase
import EndpointManifest.Text.Table.ColourName

/-!
Styles of text, written as words: effects, a colour, the colour `on` which the text stands, a link.
The same style can be written in many ways; `Style.toText` writes it in one.
-/

namespace EndpointManifest.Text

inductive StyleError where
  /-- The words are not those of a style. -/
  | malformed
  /-- A part of a mixed colour is not a number. -/
  | notANumber
  deriving DecidableEq, Repr

def colourPart? (digits : Text) : Option Nat :=
  if digits.isEmpty then none else (digits.mapM digitValue?).bind natural?

/-- A colour mixed from red, green and blue, of which this holds the three parts. -/
def checkMixture (inside : Text) : Except StyleError Unit :=
  if inside.isEmpty || !inside.all (fun c => c == ',' || (digitValue? c).isSome) then
    .error .malformed
  else
    match (splitOn ',' inside).map colourPart? with
    | [some red, some green, some blue] =>
      if red ≤ 255 && green ≤ 255 && blue ≤ 255 then .ok () else .error .malformed
    | [_, _, _] => .error .notANumber
    | _ => .error .malformed

def argument? (start t : Text) : Option Text :=
  if startsWith start t && endsWith [')'] t then some ((t.drop start.length).dropLast) else none

/-- A colour by its name, its number, or its parts; in small letters. -/
def colour (word : Text) : Except StyleError Text :=
  let t := lower word
  if t = "default".toList || Table.colourNames.contains (String.ofList t) then .ok t
  else match t with
    | '#' :: digits =>
      if digits.length = 6 && digits.all isHexDigit then .ok t else .error .malformed
    | _ =>
      match argument? "color(".toList t, argument? "rgb(".toList t with
      | some n, _ =>
        if !n.isEmpty && n.length ≤ 3 && n.all isAsciiDigit && natOfDigits n ≤ 255 then .ok t
        else .error .malformed
      | none, some parts => (checkMixture parts).map fun _ => t
      | none, none => .error .malformed

inductive Effect where
  | bold | dim | italic | underline | blink | fastBlink | reverse | conceal | strike
  | doubleUnderline | frame | encircle | overline
  deriving DecidableEq, Repr

namespace Effect

def all : List Effect :=
  [.bold, .dim, .italic, .underline, .blink, .fastBlink, .reverse, .conceal, .strike,
    .doubleUnderline, .frame, .encircle, .overline]

def names : Effect → String × Option String
  | .bold => ("bold", some "b")
  | .dim => ("dim", some "d")
  | .italic => ("italic", some "i")
  | .underline => ("underline", some "u")
  | .blink => ("blink", none)
  | .fastBlink => ("blink2", none)
  | .reverse => ("reverse", some "r")
  | .conceal => ("conceal", some "c")
  | .strike => ("strike", some "s")
  | .doubleUnderline => ("underline2", some "uu")
  | .frame => ("frame", none)
  | .encircle => ("encircle", none)
  | .overline => ("overline", some "o")

def name (e : Effect) : Text := e.names.1.toList

def ofWord? (word : Text) : Option Effect :=
  all.find? fun e => e.name = word || e.names.2.map String.toList = some word

end Effect

structure Style where
  /-- The effects that are switched on or off. -/
  effects : List (Effect × Bool) := []
  colour : Option Text := none
  /-- The colour behind the text. -/
  ground : Option Text := none
  link : Option Text := none
  deriving DecidableEq, Repr

namespace Style

def set (s : Style) (e : Effect) (on : Bool) : Style :=
  { s with effects := Assoc.insert e on s.effects }

/-- Adds what the words say. Three words take the next one with them: `on`, `not` and `link`. -/
def readWords (s : Style) : List Text → Except StyleError Style
  | [] => .ok s
  | [word] =>
    match Effect.ofWord? (lower word) with
    | some e => .ok (s.set e true)
    | none => (Text.colour word).map fun c => { s with colour := some c }
  | word :: next :: rest =>
    let small := lower word
    if small = "on".toList then do
      let c ← Text.colour next
      readWords { s with ground := some c } rest
    else if small = "not".toList then
      match Effect.ofWord? next with
      | some e => readWords (s.set e false) rest
      | none => .error .malformed
    else if small = "link".toList then readWords { s with link := some next } rest
    else match Effect.ofWord? small with
      | some e => readWords (s.set e true) (next :: rest)
      | none => do
        let c ← Text.colour word
        readWords { s with colour := some c } (next :: rest)

def ofText (t : Text) : Except StyleError Style :=
  if trim t = "none".toList then .ok {} else readWords {} (words t)

def toWords (s : Style) : List Text :=
  (Effect.all.flatMap fun e =>
    match Assoc.get? e s.effects with
    | some true => [e.name]
    | some false => ["not".toList, e.name]
    | none => []) ++
  s.colour.toList ++
  (s.ground.map fun c => ["on".toList, c]).getD [] ++
  (s.link.map fun target => ["link".toList, target]).getD []

def toText (s : Style) : Text :=
  if s.toWords.isEmpty then "none".toList else join [' '] s.toWords

/-- The one way to write the style that a name writes; a name that is no style in small letters. -/
def normalName (name : Text) : Except StyleError Text :=
  match ofText name with
  | .ok s => .ok s.toText
  | .error .malformed => .ok (lower (trim name))
  | .error .notANumber => .error .notANumber

end Style
end EndpointManifest.Text
