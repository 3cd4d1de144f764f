import EndpointManifest.Text.Constant.Reader
import EndpointManifest.Text.Emoji
import EndpointManifest.Text.Style

/-!
Texts with tags: `[bold]` opens a style, `[/bold]` closes it, `[/]` closes the one opened last. A
tag whose name begins with `@` names a handler instead of a style. Emoji are written by their names.
Only the text without its tags is of interest here, and what is wrong with the tags.
-/

namespace EndpointManifest.Text.Markup

/-- A tag at the front of a text, after the backslashes that may escape it. -/
structure Tag where
  backslashes : Nat
  /-- What stands between the brackets. -/
  body : Text
  deriving DecidableEq, Repr

def Tag.length (tag : Tag) : Nat := tag.backslashes + tag.body.length + 2

/-- Brackets around anything else, such as `[0]`, are plain text. -/
def isTagStart (c : Char) : Bool := isAsciiLower c || c == '#' || c == '/' || c == '@'

def tag? (t : Text) : Option Tag :=
  let (backslashes, rest) := t.span (· = '\\')
  match rest with
  | '[' :: c :: rest =>
    let (more, rest) := rest.span fun c => c != '[' && c != ']'
    if isTagStart c && rest.head? == some ']' then some ⟨backslashes.length, c :: more⟩ else none
  | _ => none

structure Opening where
  name : Text
  /-- What follows an equals sign. -/
  parameters : Option Text
  deriving DecidableEq, Repr

inductive Piece where
  | plain (t : Text)
  | opening (tag : Opening)
  | closing (name : Text)
  deriving DecidableEq, Repr

/-- An equals sign in a tag ends its name. -/
def Piece.ofTag (body : Text) : Piece :=
  match body.span (· ≠ '=') with
  | ('/' :: name, _) => .closing name
  | (name, []) => .opening ⟨name, none⟩
  | (name, _ :: parameters) => .opening ⟨name, some parameters⟩

/-- Two backslashes before a tag stand for one. One that is left makes the tag plain text. -/
def Tag.pieces (tag : Tag) : List Piece :=
  [.plain (List.replicate (tag.backslashes / 2) '\\'),
    if tag.backslashes % 2 = 1 then .plain ('[' :: tag.body ++ [']']) else .ofTag tag.body]

def addPlain (c : Char) : List Piece → List Piece
  | .plain t :: rest => .plain (c :: t) :: rest
  | pieces => .plain [c] :: pieces

/-- The pieces of a text after `skip` more characters of the last tag; `\[` stands for a bracket. A
run of characters between two tags is one piece. -/
def piecesFrom : (skip : Nat) → Text → List Piece
  | _, [] => [.plain []]
  | skip + 1, _ :: rest => piecesFrom skip rest
  | 0, c :: rest =>
    match tag? (c :: rest) with
    | some tag => .plain [] :: tag.pieces ++ piecesFrom (tag.length - 1) rest
    | none =>
      if c = '\\' && rest.head? == some '[' then piecesFrom 0 rest
      else addPlain c (piecesFrom 0 rest)

def pieces (t : Text) : List Piece := piecesFrom 0 t

inductive Error where
  /-- A closing tag closes nothing. -/
  | nothingToClose
  /-- The parameters of a handler are not constants. -/
  | handler
  /-- A part of a mixed colour is not a number. -/
  | colour
  deriving DecidableEq, Repr

/-- Words and points, which may name a handler before its arguments in parentheses. -/
def handlerArguments (parameters : Text) : Text :=
  let t := trim parameters
  match t.dropWhile fun c => isWord c || c = '.' with
  | [] => "()".toList
  | '(' :: rest => if endsWith [')'] rest && !rest.contains '\n' then '(' :: rest else t
  | _ => t

/-- A handler without parameters has no arguments. Those of any other must be constants. -/
def Opening.isSound (tag : Opening) : Bool :=
  tag.name.head? != some '@' ||
    match tag.parameters with
    | none | some [] => true
    | some parameters => isConstant (handlerArguments parameters)

/-- Closes a tag. The tag opened last is the first in the list. -/
def close (name : Text) (opened : List Opening) : Except Error (List Opening) := do
  let name ← if (trim name).isEmpty then pure none
    else match Style.normalName (trim name) with
      | .ok name => pure (some name)
      | .error _ => throw .colour
  let fits (tag : Opening) : Bool := name.all (tag.name = ·)
  match opened.find? fits with
  | none => throw .nothingToClose
  | some tag => if tag.isSound then return opened.eraseP fits else throw .handler

def isDropped (c : Char) : Bool := [7, 8, 11, 12, 13].contains c.toNat

def shown (t : Text) : Text := (showEmoji t).filter (!isDropped ·)

/-- The text that the pieces show, and all tags that open in them, by the one way to write their
names. -/
def readFrom (opened : List Opening) : List Piece → Except Error (Text × List Opening)
  | [] => .ok ([], [])
  | .plain t :: rest => do
    let (more, tags) ← readFrom opened rest
    return (shown t ++ more, tags)
  | .opening tag :: rest =>
    match Style.normalName tag.name with
    | .error _ => .error .colour
    | .ok name => do
      let (more, tags) ← readFrom ({ tag with name } :: opened) rest
      return (more, { tag with name } :: tags)
  | .closing name :: rest => do readFrom (← close name opened) rest

def read (t : Text) : Except Error (Text × List Opening) := readFrom [] (pieces t)

/-- The style that a tag asks for. Its parameters are a part of it, as the target of a link. -/
def Opening.style (tag : Opening) : Text :=
  tag.name ++ (tag.parameters.map fun parameters => ' ' :: parameters).getD []

/-- What is no style at all is passed over when a text is shown. -/
def Opening.isShowable (tag : Opening) : Bool :=
  match Style.ofText tag.style with
  | .error .notANumber => false
  | _ => true

end EndpointManifest.Text.Markup
