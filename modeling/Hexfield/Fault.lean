import Hexfield.Hex
import Hexfield.Rules

namespace Hexfield

/-!
The ways in which a request can fail, and their wording.

Some failures are answers: a hex was taken, a duel named no unit.  Others say that the caller broke
a promise, for instance by naming a unit that is not on the field; `isViolation` tells them apart.
-/

/-- A unit's number.  As long as the words last, numbers are handed out in increasing order and
never twice. -/
@[ext] structure UnitId where
  val : Nat
deriving DecidableEq

namespace UnitId

instance : Ord UnitId where
  compare := compareOn UnitId.val

instance : Std.TransOrd UnitId :=
  inferInstanceAs (Std.TransCmp (compareOn UnitId.val))

instance : Std.LawfulEqOrd UnitId where
  eq_of_compare {a b} same := by
    rcases a with ⟨a⟩
    rcases b with ⟨b⟩
    exact congrArg UnitId.mk (Nat.compare_eq_eq.mp same)

def describe (id : UnitId) : String :=
  "#" ++ toString id.val

end UnitId

inductive Fault where
  /-- The caller named a unit that is not on the field. -/
  | noSuchUnit (id : UnitId)
  /-- The caller named a weapon that the unit does not have. -/
  | noSuchWeapon (index : Nat) (unitType : String) (count : Nat)
  /-- The caller asked for an attack without offering any attacker. -/
  | noCandidates (target : UnitId)
  /-- The caller allowed plans of more attackers than a search can keep ratings of. -/
  | tooDeep (attackers : Nat)
  | unitNotFound (id : UnitId)
  | hexOccupied (hex : Hex)
  | offMap (hex : Hex)
  | cannotInitiate (id : UnitId)
  | badRules (flaw : Rules.Flaw)
  | sideOutOfRange (side : Nat)
  | noSuchDuelist (index count : Nat)
deriving DecidableEq

namespace Fault

/-- The caller broke a promise. -/
def isViolation : Fault → Bool
  | noSuchUnit _ | noSuchWeapon _ _ _ | noCandidates _ | tooDeep _ => true
  | _ => false

private def invalid (text : String) : String :=
  "Invalid configuration: " ++ text

def message : Fault → String
  | noSuchUnit id => "no unit with id " ++ id.describe
  | noSuchWeapon index unitType count =>
      "weapon index " ++ toString index ++ " out of range for " ++ unitType ++ " (" ++
        toString count ++ " weapons)"
  | noCandidates target =>
      "attack search against " ++ target.describe ++ " needs at least one candidate"
  | tooDeep _ => "capacity overflow"
  | unitNotFound id => "Unit not found: " ++ id.describe
  | hexOccupied hex => "Hex " ++ hex.describe ++ " is already occupied"
  | offMap hex => "Hex " ++ hex.describe ++ " is off the map"
  | cannotInitiate id => "Unit " ++ id.describe ++ " has no weapon able to initiate combat"
  | badRules flaw => invalid flaw.message
  | sideOutOfRange side => invalid ("side " ++ toString side ++ " out of range")
  | noSuchDuelist index count =>
      invalid ("duel refers to unit " ++ toString index ++ " of " ++ toString count)

end Fault

end Hexfield
