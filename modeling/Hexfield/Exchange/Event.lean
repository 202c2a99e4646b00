import Hexfield.Battlefield

namespace Hexfield

/-!
What an exchange announces, and who listens.
-/

/-- The two parts in an exchange. -/
inductive Role where
  | attacker
  | defender
deriving DecidableEq

instance : Named Role where
  all := [.attacker, .defender]
  name
    | .attacker => "Attacker"
    | .defender => "Defender"

/-- The mark of a swing of this part in a schedule. -/
def Role.mark : Role → Bool
  | attacker => true
  | defender => false

theorem Role.mark_injective {first second : Role} (same : first.mark = second.mark) :
    first = second := by
  cases first <;> cases second <;> first | rfl | cases same

/-- The part that the opponent plays. -/
def Role.other : Role → Role
  | attacker => defender
  | defender => attacker

theorem Role.exists_mark (mark : Bool) : ∃ role : Role, role.mark = mark := by
  cases mark with
  | true => exact ⟨.attacker, rfl⟩
  | false => exact ⟨.defender, rfl⟩

theorem Role.other_other (role : Role) : role.other.other = role := by
  cases role <;> rfl

theorem Role.other_ne (role : Role) : role.other ≠ role := by
  cases role <;> simp [other]

theorem Role.eq_or_eq_other (role role' : Role) : role' = role ∨ role' = role.other := by
  cases role <;> cases role' <;> simp [other]

/-- Why an exchange is over. -/
inductive Ending where
  /-- All swings of all rounds were made. -/
  | exhausted
  | attackerDied
  | defenderDied
  /-- One side was turned to stone. -/
  | petrified
  /-- An observer took one of the combatants off the field. -/
  | interrupted
deriving DecidableEq

instance : Named Ending where
  all := [.exhausted, .attackerDied, .defenderDied, .petrified, .interrupted]
  name
    | .exhausted => "Exhausted"
    | .attackerDied => "AttackerDied"
    | .defenderDied => "DefenderDied"
    | .petrified => "Petrified"
    | .interrupted => "Interrupted"

/-- How an exchange ends in which this part dies. -/
def Role.death : Role → Ending
  | attacker => .attackerDied
  | defender => .defenderDied

inductive Announcement where
  | attack (attacker defender : UnitId) (weapon : Nat)
  | death (victim killer : UnitId) (hex : Hex)
  | contagionSpawn (spawned : UnitId) (unitType : String) (side : Side) (hex : Hex)
  | attackEnd (attacker defender : UnitId) (ending : Ending)
deriving DecidableEq

namespace Announcement

/-- The announcement in words. -/
def describe : Announcement → String
  | attack attacker defender weapon =>
      attacker.describe ++ " attacks " ++ defender.describe ++ " with weapon " ++ toString weapon
  | death victim killer _ => victim.describe ++ " killed by " ++ killer.describe
  | contagionSpawn _ unitType _ hex => unitType ++ " rises at " ++ hex.describe
  | attackEnd _ _ ending => "attack ended: " ++ Named.name ending

end Announcement

/-- An announcement with the number of swings made before it. -/
structure Event where
  swing : Nat
  announcement : Announcement
deriving DecidableEq

/-- A listener with a memory of type `σ`.

It hears every event and may change the field, for instance by removing a unit; the exchange looks
again whether its combatants are still there.  At the end it is told around which hexes anything it
has worked out before is out of date. -/
structure Observer (σ : Type) where
  notify : Event → Battlefield → σ → Battlefield × σ
  invalidate : List Hex → σ → σ

namespace Observer

/-- A listener that does nothing. -/
def silent : Observer Unit where
  notify := fun _ field _ => (field, ())
  invalidate := fun _ _ => ()

/-- The field is none of this listener's business. -/
def LeavesField {σ : Type} (observer : Observer σ) : Prop :=
  ∀ event field memory, (observer.notify event field memory).1 = field

theorem silent_leavesField : silent.LeavesField :=
  fun _ _ _ => rfl

end Observer

/-- Everything that an exchange announced. -/
structure EventLog where
  events : Array Event := #[]
  invalidated : Array Hex := #[]

def Observer.recorder : Observer EventLog where
  notify := fun event field log => (field, { log with events := log.events.push event })
  invalidate := fun hexes log => { log with invalidated := log.invalidated ++ hexes.toArray }

theorem Observer.recorder_leavesField : Observer.recorder.LeavesField :=
  fun _ _ _ => rfl

end Hexfield
