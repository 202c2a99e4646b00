import Hexfield.Loading
import Hexfield.Scalar
import Hexfield.Text.Decimal
import Hexfield.Text.Visible

namespace Hexfield

/-!
How a side plans: what it is ready to lose, and how much work it may put into a search.

Personalities are kept in files, and the file decides the name: what the document itself says of it
does not count.
-/

structure Personality (α : Type) where
  name : String
  /-- How readily losses are accepted for a kill: not at all at zero, without any regard at one. -/
  aggression : α
  /-- The bound of aggression when a leader takes part, and the weight of exposed ground. -/
  caution : α
  /-- The most attackers of a plan. -/
  attackDepth : Nat
  /-- How often a plan is played out. -/
  simulationTrials : Nat
  /-- How many plans against one target are kept. -/
  maxResults : Nat
  /-- The seed of the rolls with which plans are played out. -/
  seed : Nat
deriving DecidableEq

namespace Personality

section

variable {α : Type} [Scalar α]

/-- What is taken for a personality that says nothing. -/
def ofName (name : String) : Personality α :=
  { name, aggression := 0.4, caution := 0.25, attackDepth := 5, simulationTrials := 50
    maxResults := 1000, seed := 42 }

/-- What can be wrong with a personality. -/
inductive Flaw (α : Type) where
  | aggression (value : α)
  | caution (value : α)
  | attackDepth
  | maxResults
deriving DecidableEq

/-- The number is a fraction of one. -/
def isFraction (value : α) : Bool :=
  decide ((0.0 : α) ≤ value) && decide (value ≤ 1.0)

/-- The first flaw of a personality. -/
def flaw? (personality : Personality α) : Option (Flaw α) :=
  if ¬ isFraction personality.aggression then some (.aggression personality.aggression)
  else if ¬ isFraction personality.caution then some (.caution personality.caution)
  else if personality.attackDepth = 0 then some .attackDepth
  else if personality.maxResults = 0 then some .maxResults
  else none

end

def Flaw.message : Flaw Float → String
  | aggression value =>
      "aggression must be in [0, 1], got " ++ Text.shortestNotation .plain value
  | caution value => "caution must be in [0, 1], got " ++ Text.shortestNotation .plain value
  | attackDepth => "attack_depth must be at least 1"
  | maxResults => "max_results must be at least 1"

open Toml in
/-- A personality as it is written down.  Whatever is left out is as in `ofName`, and the name is
empty. -/
def decode : Decoder (Personality Float) := fun value => do
  let fallback : Personality Float := ofName ""
  let fields ← value.fields ["name", "behavior", "search"]
  let name ← fields.optional "name" .text fallback.name
  let (aggression, caution) ← fields.optional "behavior" (fun value => do
    let fields ← value.fields ["aggression", "caution"]
    pure
      (← fields.optional "aggression" .float fallback.aggression,
        ← fields.optional "caution" .float fallback.caution))
    (fallback.aggression, fallback.caution)
  let bounds ← fields.optional "search" (fun value => do
    let fields ← value.fields ["attack_depth", "simulation_trials", "max_results", "seed"]
    pure
      { fallback with
        attackDepth := ← fields.optional "attack_depth" (.natural 64) fallback.attackDepth
        simulationTrials :=
          ← fields.optional "simulation_trials" (.natural 32) fallback.simulationTrials
        maxResults := ← fields.optional "max_results" (.natural 64) fallback.maxResults
        seed := ← fields.optional "seed" (.natural 64) fallback.seed })
    fallback
  pure { bounds with name, aggression, caution }

/-! ## Files -/

/-- The path of the file with a name, which may be an absolute path itself. -/
def path (name : String) : String :=
  let file := name ++ ".toml"
  if file.startsWith "/" then file else "data/ai_personalities/" ++ file

/-- A personality that has been read, but has a flaw. -/
structure Refusal where
  path : String
  flaw : Flaw Float

def Refusal.message (refusal : Refusal) : String :=
  "Invalid configuration: " ++ Text.quoted refusal.path ++ ": " ++ refusal.flaw.message

def load (name : String) (content : Option String) :
    Except (LoadError Refusal) (Personality Float) := do
  let personality ← LoadError.decodeFile decode content
  let personality := { personality with name }
  match personality.flaw? with
  | some flaw => .error (.refused { path := path name, flaw })
  | none => .ok personality

end Personality

end Hexfield
