namespace Hexfield
namespace Toml

/-!
Values of a TOML document, and reading typed data from them.

A decoder accepts a value or says why it does not.  Records are read by field name; a list in the
place of a record gives the fields in their declared order, and fields that nobody asks for are
ignored.
-/

inductive Value where
  | text (content : String)
  | integer (number : Int)
  | float (number : Float)
  | boolean (flag : Bool)
  /-- A date, a time or both, as written. -/
  | moment (written : String)
  | array (items : List Value)
  | table (entries : List (String × Value))

/-- Why a value is not what was asked for. -/
inductive DecodeError where
  | missing (field : String)
  | mismatch (expected : String)
  | outOfRange (number : Int)
  | unknownName (name : String)
deriving DecidableEq

/-- A way to read typed data from a value. -/
abbrev Decoder (α : Type) := Value → Except DecodeError α

namespace Decoder

def text : Decoder String
  | .text content => .ok content
  | _ => .error (.mismatch "a string")

def boolean : Decoder Bool
  | .boolean flag => .ok flag
  | _ => .error (.mismatch "a boolean")

/-- A number; an integer is read as the nearest one. -/
def float : Decoder Float
  | .float number => .ok number
  | .integer number => .ok (Float.ofInt number)
  | _ => .error (.mismatch "a number")

/-- An integer between two bounds, both included. -/
def integer (least greatest : Int) : Decoder Int
  | .integer number =>
      if least ≤ number ∧ number ≤ greatest then .ok number else .error (.outOfRange number)
  | _ => .error (.mismatch "an integer")

/-- A natural number of at most so many bits. -/
def natural (bits : Nat) : Decoder Nat := fun value =>
  (integer 0 ((Nat.pow 2 bits : Int) - 1) value).map Int.toNat

/-- An integer of at most so many bits, one of them for the sign. -/
def signed (bits : Nat) : Decoder Int :=
  let bound : Int := Nat.pow 2 (bits - 1)
  integer (-bound) (bound - 1)

def list {α : Type} (item : Decoder α) : Decoder (List α)
  | .array items => items.mapM item
  | _ => .error (.mismatch "an array")

/-- A value that is either left out or read; what is present is never "left out". -/
def present {α : Type} (content : Decoder α) : Decoder (Option α) := fun value =>
  (content value).map some

private def isHollow : Value → Bool
  | .array items => items.isEmpty
  | .table entries => entries.isEmpty
  | _ => false

/-- One of finitely many names: a string, or a table whose only key is the name and whose value is
empty. -/
def oneOf {α : Type} (ofName? : String → Option α) : Decoder α
  | .text name => find name
  | .table [(name, content)] =>
      if isHollow content then find name else .error (.mismatch "an empty table")
  | _ => .error (.mismatch "a name")
where
  find (name : String) : Except DecodeError α :=
    match ofName? name with
    | some member => .ok member
    | none => .error (.unknownName name)

end Decoder

/-- The fields of a record that were given. -/
abbrev Fields := List (String × Value)

/-- The fields of a record with the declared names.  A moment has no field that a record could ask
for. -/
def Value.fields (names : List String) : Value → Except DecodeError Fields
  | .table entries => .ok entries
  | .array items => .ok (names.zip items)
  | .moment _ => .ok []
  | _ => .error (.mismatch "a table")

namespace Fields

def required {α : Type} (fields : Fields) (name : String) (content : Decoder α) :
    Except DecodeError α :=
  match fields.lookup name with
  | some value => content value
  | none => .error (.missing name)

def optional {α : Type} (fields : Fields) (name : String) (content : Decoder α) (fallback : α) :
    Except DecodeError α :=
  match fields.lookup name with
  | some value => content value
  | none => .ok fallback

end Fields

end Toml
end Hexfield
