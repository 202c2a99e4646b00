namespace Hexfield
namespace Toml

/-!
Parsers: they take characters off the front of a text, or fail.

Repetition is bounded by the text: there is one turn for each of its characters.  No parser here
succeeds more often than that without taking a character, so the bound is never felt.
-/

/-- A parser of values of a type. -/
abbrev Parser := StateT (List Char) Option

namespace Parser

variable {α : Type}

/-- Whether a parser succeeds; if it does not, it takes nothing. -/
def attempt (parser : Parser α) : Parser (Option α) := fun text =>
  match parser text with
  | some (value, rest) => some (some value, rest)
  | none => some (none, text)

/-- The first parser, or the second one if the first fails. -/
def orElse (first second : Parser α) : Parser α := fun text =>
  match first text with
  | some result => some result
  | none => second text

/-- A parser that is tried without taking anything. -/
def ahead (parser : Parser α) : Parser α := fun text =>
  (parser text).map fun (value, _) => (value, text)

/-- One character of a class. -/
def one (belongs : Char → Bool) : Parser Char
  | [] => none
  | c :: rest => if belongs c then some (c, rest) else none

/-- A given text. -/
def exactly (expected : String) : Parser Unit := fun text =>
  if expected.toList.isPrefixOf text then some ((), text.drop expected.length) else none

/-- All characters of a class up to the first that does not belong to it. -/
def run (belongs : Char → Bool) : Parser (List Char) := fun text =>
  some (text.takeWhile belongs, text.dropWhile belongs)

/-- All characters of a class, at least one. -/
def someOf (belongs : Char → Bool) : Parser (List Char) := do
  let found ← run belongs
  if found.isEmpty then failure else pure found

def atEnd : Parser Unit
  | [] => some ((), [])
  | _ => none

/-- A parser as often as it succeeds, but at most so many times. -/
def repeatUpTo (parser : Parser α) : Nat → Parser (List α)
  | 0 => pure []
  | limit + 1 => do
      match ← attempt parser with
      | none => pure []
      | some value => (value :: ·) <$> repeatUpTo parser limit

/-- A parser as often as it succeeds, but at most once for each of the characters `turns`. -/
def repeatAlong (parser : Parser α) : (turns : List Char) → Parser (List α)
  | [] => pure []
  | _ :: turns => do
      match ← attempt parser with
      | none => pure []
      | some value => (value :: ·) <$> repeatAlong parser turns

def many (parser : Parser α) : Parser (List α) := fun text =>
  repeatAlong parser text text

/-- Items with a separator between each two of them, and none behind the last. -/
def separated (separator : Parser Unit) (item : Parser α) : Parser (List α) := do
  match ← attempt item with
  | none => pure []
  | some first =>
      let others ← many (do separator; item)
      pure (first :: others)

/-- The value that the whole of a text stands for. -/
def whole (parser : Parser α) (text : List Char) : Option α :=
  (parser text).bind fun (value, rest) => if rest.isEmpty then some value else none

end Parser

/-! ## Blanks and comments -/

namespace Parser

def isBlank (c : Char) : Bool :=
  c == ' ' || c == '\t'

/-- Blanks within a line. -/
def blanks : Parser Unit := do
  let _ ← run isBlank

def newline : Parser Unit :=
  orElse (exactly "\n") (exactly "\r\n")

/-- A printable character or a tab; control characters are allowed nowhere. -/
def isPlain (c : Char) : Bool :=
  c == '\t' || (0x20 ≤ c.toNat && c.toNat != 0x7F)

def comment : Parser Unit := do
  exactly "#"
  let _ ← run isPlain

/-- The rest of a line behind a statement. -/
def lineEnd : Parser Unit := do
  blanks
  let _ ← attempt comment
  orElse newline atEnd

/-- Blanks, comments and new lines between the items of an array. -/
def gap : Parser Unit := do
  let _ ← many (orElse (do let _ ← someOf isBlank) (do let _ ← attempt comment; newline))

end Parser

end Toml
end Hexfield
