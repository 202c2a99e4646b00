import Hexfield.Toml.Parser

namespace Hexfield
namespace Toml
namespace Quoted

/-!
Texts in quotation marks.

A text in double marks knows escapes, one in single marks stands as it is.  In marks that are
written three times a text may go over several lines: each line ends in a plain line feed, a line
feed right behind the opening marks is left out, and so is everything blank behind a backslash at
the end of a line.  Up to two marks may stand within such a text, and right before its closing ones.
-/

open Hexfield.Toml.Parser

private def hexValue (digits : List Char) : Nat :=
  digits.foldl (fun value c =>
    16 * value +
      (if c.isDigit then c.toNat - '0'.toNat
       else if 'a' ≤ c then c.toNat - 'a'.toNat + 10
       else c.toNat - 'A'.toNat + 10)) 0

/-- A hexadecimal digit. -/
def isHexDigit (c : Char) : Bool :=
  c.isDigit || ('a' ≤ c && c ≤ 'f') || ('A' ≤ c && c ≤ 'F')

/-- The character with a number of so many hexadecimal digits. -/
def codePoint (digits : Nat) : Parser Char := do
  let found ← repeatUpTo (one isHexDigit) digits
  let code := hexValue found
  if found.length = digits ∧ code.isValidChar then pure (Char.ofNat code) else failure

/-- What a backslash and the characters behind it stand for. -/
def escape : Parser Char := do
  exactly "\\"
  match ← one (fun _ => true) with
  | 'b' => pure '\x08'
  | 't' => pure '\t'
  | 'n' => pure '\n'
  | 'f' => pure '\x0c'
  | 'r' => pure '\r'
  | '"' => pure '"'
  | '\\' => pure '\\'
  | 'u' => codePoint 4
  | 'U' => codePoint 8
  | _ => failure

/-- A character that stands for itself in double marks. -/
def isUnescaped (c : Char) : Bool :=
  isPlain c && c != '"' && c != '\\'

/-- A character that stands for itself in single marks. -/
def isLiteral (c : Char) : Bool :=
  isPlain c && c != '\''

def basic : Parser String := do
  exactly "\""
  let parts ← many (orElse (someOf isUnescaped) (do pure [← escape]))
  exactly "\""
  pure (String.ofList parts.flatten)

def literal : Parser String := do
  exactly "'"
  let content ← run isLiteral
  exactly "'"
  pure (String.ofList content)

/-- A line feed within a text of several lines. -/
def lineFeed : Parser (List Char) := do
  newline
  pure ['\n']

/-- A backslash at the end of a line, and everything blank behind it. -/
def continuation : Parser (List Char) := do
  exactly "\\"
  blanks
  newline
  let _ ← many (orElse (do let _ ← someOf isBlank) newline)
  pure []

/-- One or two marks with something behind them that is no further mark, but not a closing one
either. -/
def innerMarks (mark : Char) (content : Parser (List Char)) : Parser (List Char) := do
  let two := [mark, mark]
  let marks ←
    orElse (do exactly (String.ofList two); let _ ← ahead content; pure two)
      (do exactly (String.ofList [mark]); let _ ← ahead content; pure [mark])
  let first ← content
  pure (marks ++ first)

/-- The closing marks, with up to two marks before them that belong to the text. -/
def closingMarks (mark : Char) : Parser (List Char) := do
  let closing := String.ofList (List.replicate 3 mark)
  let marks (count : Nat) : Parser (List Char) := do
    let kept := List.replicate count mark
    exactly (String.ofList kept)
    exactly closing
    pure kept
  orElse (marks 2) (orElse (marks 1) (marks 0))

/-- A text in marks that are written three times. -/
def manyLines (mark : Char) (content : Parser (List Char)) : Parser String := do
  exactly (String.ofList (List.replicate 3 mark))
  let _ ← attempt newline
  let parts ← many (orElse content (innerMarks mark content))
  let last ← closingMarks mark
  pure (String.ofList (parts.flatten ++ last))

/-- A text of several lines in double marks. -/
def manyBasicLines : Parser String :=
  manyLines '"'
    (orElse (someOf isUnescaped)
      (orElse continuation (orElse (do pure [← escape]) lineFeed)))

/-- A text of several lines in single marks. -/
def manyLiteralLines : Parser String :=
  manyLines '\'' (orElse (someOf isLiteral) lineFeed)

def text : Parser String :=
  orElse manyBasicLines (orElse basic (orElse manyLiteralLines literal))

end Quoted
end Toml
end Hexfield
