namespace Hexfield
namespace CommandLine

/-!
The options of the command line.

An option stands by its name, and its value behind an equals sign or as the next argument, which
must not look like an option then.  No option may be given twice, and nothing but options is
accepted.
-/

structure Options where
  /-- The path of the scenario. -/
  scenario : String := "data/scenarios/duel.toml"
  trials : Nat := 10000
  /-- Drawn at random, if it is not given. -/
  seed : Option Nat := none
  personality : String := "default"
  format : String := "json"
  /-- Whether attack plans are searched for. -/
  search : Bool := false
  /-- The side that the plans are for. -/
  side : Option Nat := none
  /-- How many plans are shown. -/
  top : Nat := 5
deriving DecidableEq

/-! ## Numbers -/

/-- Whether a text is made up of decimal digits, and is not empty. -/
private def isDigits (text : List Char) : Bool :=
  !text.isEmpty && text.all Char.isDigit

private def valueOf (digits : List Char) : Nat :=
  digits.foldl (fun value c => 10 * value + (c.toNat - '0'.toNat)) 0

/-- A number of so many bits, which may have a plus before it. -/
def natural? (bits : Nat) (text : String) : Option Nat :=
  let digits :=
    match text.toList with
    | '+' :: digits => digits
    | digits => digits
  if isDigits digits ∧ valueOf digits < Nat.pow 2 bits then some (valueOf digits) else none

/-- A number of so many bits, which may also be written as a negative zero. -/
def signedNatural? (bits : Nat) (text : String) : Option Nat :=
  match text.toList with
  | '-' :: digits => if isDigits digits ∧ valueOf digits = 0 then some 0 else none
  | _ => natural? bits text

/-! ## Arguments -/

/-- An argument that looks like an option.  A lone dash is a value. -/
def looksLikeOption (argument : String) : Bool :=
  argument.startsWith "-" && argument != "-"

/-- An option as it was given: its name, and its value unless it is the next argument. -/
structure Given where
  name : String
  value : Option String
deriving DecidableEq

/-- The parts of an argument that begins with two dashes. -/
def Given.ofArgument? (argument : String) : Option Given :=
  match argument.toList with
  | '-' :: '-' :: rest =>
      let name := rest.takeWhile (· != '=')
      let value :=
        match rest.dropWhile (· != '=') with
        | _ :: value => some (String.ofList value)
        | [] => none
      some { name := String.ofList name, value }
  | _ => none

/-- The option with a value filled in; `none`, if there is no such option or the value does not fit.
A path is not empty. -/
def Options.set? (options : Options) (name value : String) : Option Options :=
  match name with
  | "scenario" => if value.isEmpty then none else some { options with scenario := value }
  | "trials" => (signedNatural? 32 value).map fun trials => { options with trials }
  | "seed" => (natural? 64 value).map fun seed => { options with seed := some seed }
  | "personality" => some { options with personality := value }
  | "format" => some { options with format := value }
  | "side" => (signedNatural? 8 value).map fun side => { options with side := some side }
  | "top" => (natural? 64 value).map fun top => { options with top }
  | _ => none

/-- The options of the arguments that are left; `seen` are the names that were given before. -/
def parseFrom (options : Options) (seen : List String) : List String → Option Options
  | [] => some options
  | argument :: rest =>
      if argument == "--" then (if rest.isEmpty then some options else none)
      else
        match Given.ofArgument? argument with
        | none => none
        | some { name, value } =>
            if seen.contains name then none
            else if name == "search" then
              if value.isSome then none
              else parseFrom { options with search := true } (name :: seen) rest
            else
              match value, rest with
              | some value, rest =>
                  match options.set? name value with
                  | some options => parseFrom options (name :: seen) rest
                  | none => none
              | none, [] => none
              | none, value :: rest =>
                  if looksLikeOption value then none
                  else
                    match options.set? name value with
                    | some options => parseFrom options (name :: seen) rest
                    | none => none

/-- The options of a command line, unless there is something wrong with it. -/
def Options.parse? (arguments : List String) : Option Options :=
  parseFrom {} [] arguments

end CommandLine
end Hexfield
