import Hexfield.Text.Decimal

namespace Hexfield
namespace Text

/-!
Trees of data and their notation as JSON text.

Entries keep their order.  The text is indented by two blanks a level, with one item or entry a
line, and what is empty stays on its line.  A number that is infinite or none at all is written as
`null`, because JSON has no form for it.
-/

/-- A tree of data. -/
inductive Json where
  | null
  | boolean (flag : Bool)
  | integer (number : Int)
  | number (value : Float)
  | text (content : String)
  | list (items : List Json)
  | record (entries : List (String × Json))

namespace Json

/-! ## Building -/

def natural (n : Nat) : Json :=
  integer n

def option {α : Type} (content : α → Json) : Option α → Json
  | some value => content value
  | none => null

def listOf {α : Type} (item : α → Json) (items : List α) : Json :=
  list (items.map item)

/-! ## Writing -/

private def hexDigit (n : Nat) : Char :=
  (Nat.toDigits 16 (n % 16)).headD '0'

/-- A character within quotation marks. -/
def escapeChar (c : Char) : List Char :=
  match c with
  | '"' => ['\\', '"']
  | '\\' => ['\\', '\\']
  | '\n' => ['\\', 'n']
  | '\r' => ['\\', 'r']
  | '\t' => ['\\', 't']
  | '\x08' => ['\\', 'b']
  | '\x0c' => ['\\', 'f']
  | c =>
      if c.toNat < 0x20 then ['\\', 'u', '0', '0', hexDigit (c.toNat / 16), hexDigit c.toNat]
      else [c]

def quoted (text : String) : String :=
  String.ofList ('"' :: text.toList.flatMap escapeChar ++ ['"'])

/-- A new line with the indentation of a level. -/
def newLine (level : Nat) : String :=
  String.ofList ('\n' :: List.replicate (2 * level) ' ')

/-- Lines between two brackets; nothing between them, if there are no lines. -/
def enclosed (opening closing : String) (level : Nat) (lines : List String) : String :=
  if lines.isEmpty then opening ++ closing
  else
    opening ++ newLine (level + 1) ++ String.intercalate ("," ++ newLine (level + 1)) lines ++
      newLine level ++ closing

mutual

/-- The text of a tree that stands at a level of indentation. -/
def write (level : Nat) : Json → String
  | null => "null"
  | boolean flag => if flag then "true" else "false"
  | integer n => toString n
  | number value =>
      match Numeral.ofFloat value with
      | .finite _ _ _ => shortestNotation .interchange value
      | _ => "null"
  | text content => quoted content
  | list items => enclosed "[" "]" level (writeItems (level + 1) items)
  | record entries => enclosed "\x7b" "\x7d" level (writeEntries (level + 1) entries)

def writeItems (level : Nat) : List Json → List String
  | [] => []
  | item :: others => write level item :: writeItems level others

def writeEntries (level : Nat) : List (String × Json) → List String
  | [] => []
  | (name, value) :: others =>
      (quoted name ++ ": " ++ write level value) :: writeEntries level others

end

def pretty (tree : Json) : String :=
  tree.write 0

end Json

end Text
end Hexfield
