import Hexfield.Toml.Tree

namespace Hexfield

/-!
What is read from files.
-/

/-- Why nothing was loaded; `κ` says why the content of a file was refused. -/
inductive LoadError (κ : Type) where
  /-- There is no such file. -/
  | unreadable
  /-- The file is no document, or not of the right form. -/
  | malformed
  | refused (cause : κ)

namespace Toml

/-- What a text says, if it is a document of the right form. -/
def decodeText {α : Type} (decoder : Decoder α) (text : String) : Option α := do
  let value ← Value.ofText? text
  (decoder value).toOption

end Toml

namespace LoadError

variable {κ α : Type}

/-- What the content of a file says, if there is a file. -/
def decodeFile (decoder : Toml.Decoder α) (content : Option String) :
    Except (LoadError κ) α :=
  match content with
  | none => .error .unreadable
  | some text =>
      match Toml.decodeText decoder text with
      | none => .error .malformed
      | some value => .ok value

end LoadError

end Hexfield
