namespace Hexfield

/-!
Written words.

White space is what the `White_Space` property of Unicode lists; it is trimmed off where names are
read leniently.  The members of a finite type have names, and a member is read by comparing its name
with the names of all members, so reading is the inverse of writing as soon as the names differ from
each other.
-/

namespace Text

def isBlank (c : Char) : Bool :=
  let code := c.toNat
  (9 ≤ code && code ≤ 13) || code == 0x20 || code == 0x85 || code == 0xA0 || code == 0x1680 ||
    (0x2000 ≤ code && code ≤ 0x200A) || code == 0x2028 || code == 0x2029 || code == 0x202F ||
    code == 0x205F || code == 0x3000

/-- The text without the white space at both of its ends. -/
def trim (text : String) : String :=
  String.ofList (((text.toList.dropWhile isBlank).reverse.dropWhile isBlank).reverse)

/-- What follows an opening word, if the text begins with it. -/
def after? (opening text : String) : Option String :=
  if opening.toList.isPrefixOf text.toList then
    some (String.ofList (text.toList.drop opening.length))
  else
    none

end Text

/-- A finite type, the list of its members, and the name of each. -/
class Named (α : Type) where
  all : List α
  name : α → String

namespace Named

variable {α : Type} [Named α]

def ofName? (text : String) : Option α :=
  (all : List α).find? (fun member => name member == text)

end Named

end Hexfield
