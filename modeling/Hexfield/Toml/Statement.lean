import Hexfield.Toml.Number

namespace Hexfield
namespace Toml

/-!
Statements, of which a document is made up.

A statement assigns a value to a key of the current table, or it says which table is the current one
from there on.  Values may be nested, but not too deeply.
-/

open Hexfield.Toml.Parser

/-- A key with the names of the tables that lead to it. -/
abbrev Path := List String

inductive Statement (α : Type) where
  | assign (path : Path) (value : α)
  /-- A header: a table of its own. -/
  | table (path : Path)
  /-- A header: one more element of an array of tables. -/
  | element (path : Path)

/-- How many brackets may be open at a time, and how many names a key may have. -/
def nestingLimit : Nat := 79

namespace Statement

/-- One name of a key. -/
def simpleKey : Parser String :=
  orElse Quoted.basic
    (orElse Quoted.literal
      (do
        pure (String.ofList (← someOf fun c =>
          c.isAlphanum || c == '-' || c == '_'))))

def key : Parser Path := do
  let name : Parser String := do
    blanks
    let name ← simpleKey
    blanks
    pure name
  let first ← name
  let others ← many (do exactly "."; name)
  if nestingLimit < others.length + 1 then failure
  pure (first :: others)

/-- A value as it is written: the tables in it are still lists of assignments. -/
inductive Literal where
  | scalar (value : Value)
  | array (items : List Literal)
  | inline (assignments : List (Path × Literal))

def keyword (word : String) (flag : Bool) : Parser Literal := do
  exactly word
  pure (.scalar (.boolean flag))

/-- An array; `item` parses what stands in it. -/
def array (item : Parser Literal) : Parser Literal := do
  exactly "["
  let items ← separated (exactly ",") (do
    gap
    let value ← item
    gap
    pure value)
  if !items.isEmpty then
    let _ ← attempt (exactly ",")
  gap
  exactly "]"
  pure (.array items)

/-- A table on one line; `item` parses what stands in it. -/
def inlineTable (item : Parser Literal) : Parser Literal := do
  exactly "\x7b"
  let assignments ← separated (exactly ",") (do
    let path ← key
    exactly "="
    blanks
    let value ← item
    blanks
    pure (path, value))
  blanks
  exactly "\x7d"
  pure (.inline assignments)

/-- A value in which so many more brackets may be opened. -/
def literal : Nat → Parser Literal
  | 0 => simple
  | depth + 1 =>
      orElse simple (orElse (array (literal depth)) (inlineTable (literal depth)))
where
  simple : Parser Literal :=
    orElse (do pure (.scalar (.text (← Quoted.text))))
      (orElse (do pure (.scalar (← Number.value)))
        (orElse (keyword "true" true) (keyword "false" false)))

def assignment : Parser (Statement Literal) := do
  let path ← key
  exactly "="
  blanks
  let value ← literal nestingLimit
  lineEnd
  pure (.assign path value)

def header : Parser (Statement Literal) := do
  let statement ←
    orElse
      (do
        exactly "[["
        let path ← key
        exactly "]]"
        pure (Statement.element path))
      (do
        exactly "["
        let path ← key
        exactly "]"
        pure (Statement.table path))
  lineEnd
  pure statement

def emptyLine : Parser Unit := do
  let _ ← attempt comment
  newline

/-- The last line may be a comment without an end. -/
def lastLine : Parser Unit := do
  blanks
  let _ ← attempt comment
  atEnd

/-- A line of a document, with its statement if it has one. -/
def line : Parser (Option (Statement Literal)) := do
  blanks
  orElse (do emptyLine; pure none)
    (orElse (do pure (some (← header))) (do pure (some (← assignment))))

/-- The statements of a document.  A mark of byte order in front is skipped. -/
def ofText? (text : String) : Option (List (Statement Literal)) :=
  whole
    (do
      let _ ← attempt (exactly "\uFEFF")
      let lines ← many line
      lastLine
      pure (lines.filterMap fun statement => statement))
    text.toList

end Statement

end Toml
end Hexfield
