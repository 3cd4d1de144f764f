import EndpointManifest.Text.Blank

/-!
Why data does not fit its schema: one fault for each value that does not, with the place of the
value.
-/

namespace EndpointManifest

inductive FaultKind where
  | missing
  | stringType | stringUnicode | stringTooShort
  | intType | intParsing | intParsingSize | intFromFloat | finiteNumber
  | greaterThan | greaterThanEqual | lessThanEqual
  | boolType | boolParsing
  | listType | dictType | modelType
  | literalError
  | frozenInstance
  deriving DecidableEq, Repr

def FaultKind.code : FaultKind → Text
  | .missing => "missing".toList
  | .stringType => "string_type".toList
  | .stringUnicode => "string_unicode".toList
  | .stringTooShort => "string_too_short".toList
  | .intType => "int_type".toList
  | .intParsing => "int_parsing".toList
  | .intParsingSize => "int_parsing_size".toList
  | .intFromFloat => "int_from_float".toList
  | .finiteNumber => "finite_number".toList
  | .greaterThan => "greater_than".toList
  | .greaterThanEqual => "greater_than_equal".toList
  | .lessThanEqual => "less_than_equal".toList
  | .boolType => "bool_type".toList
  | .boolParsing => "bool_parsing".toList
  | .listType => "list_type".toList
  | .dictType => "dict_type".toList
  | .modelType => "model_type".toList
  | .literalError => "literal_error".toList
  | .frozenInstance => "frozen_instance".toList

inductive Place where
  | field (name : Text)
  | index (n : Nat)
  deriving DecidableEq, Repr

def Place.toText : Place → Text
  | .field name => name
  | .index n => Text.ofNat n

structure Fault where
  place : List Place
  kind : FaultKind
  deriving DecidableEq, Repr

def Fault.toText (f : Fault) : Text :=
  Text.join ['.'] (f.place.map Place.toText) ++ ": ".toList ++ f.kind.code

/-- A value, or all the faults that were found. -/
inductive Checked (α : Type) where
  | valid (value : α)
  | faulty (faults : List Fault)
  deriving Repr

namespace Checked

variable {α β : Type}

/-- Both sides are checked, whatever becomes of the first. -/
def seq (f : Checked (α → β)) (x : Unit → Checked α) : Checked β :=
  match f, x () with
  | .valid f, .valid a => .valid (f a)
  | .valid _, .faulty faults => .faulty faults
  | .faulty faults, .valid _ => .faulty faults
  | .faulty first, .faulty second => .faulty (first ++ second)

instance : Applicative Checked where
  pure := .valid
  seq := seq

def faults : Checked α → List Fault
  | .valid _ => []
  | .faulty faults => faults

/-- The same faults, seen from one step further out. -/
def under (step : Place) : Checked α → Checked α
  | .valid a => .valid a
  | .faulty faults => .faulty (faults.map fun f => { f with place := step :: f.place })

def ofExcept : Except FaultKind α → Checked α
  | .ok a => .valid a
  | .error kind => .faulty [⟨[], kind⟩]

/-- Every element is checked; `n` is the index of the first. -/
def list (check : α → Checked β) (n : Nat) : List α → Checked (List β)
  | [] => .valid []
  | a :: rest => List.cons <$> (check a).under (.index n) <*> list check (n + 1) rest

end Checked
end EndpointManifest
