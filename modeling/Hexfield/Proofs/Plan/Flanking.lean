import Hexfield.Proofs.Damage.Setbacks
import Hexfield.Proofs.Hex.Distance
import Hexfield.Proofs.Plan.Deployment
import Hexfield.Proofs.Roster.History

namespace Hexfield

/-!
Whether an approach lets its unit stab the target in the back.

An approach is rated while its unit still stands where it stood, and its weapon is chosen when it
has moved.  For who stands behind the target it makes a difference only if that is the unit itself.
Then it counts as its own helper, and the approach from the other side is rated as a stab in the
back that cannot happen.
-/

namespace Battlefield

variable {field after : Battlefield} {id : UnitId} {unit : Combatant} {targetHex : Hex}
  {place : Direction}

/-- A unit behind a target helps others to stab it in the back. -/
def flanks (field : Battlefield) (flanker target : Combatant) : Bool :=
  !flanker.incapacitated &&
    (!field.teams.isValid target.side || !field.teams.isValid flanker.side ||
      field.isEnemy flanker.side target.side)

theorem canBackstab_iff : field.canBackstab (targetHex.neighbor place) targetHex = true ↔
    ∃ target flanker, field.roster.unitAt? targetHex = some target ∧
      field.roster.unitAt? (targetHex.neighbor place.opposite) = some flanker ∧
        field.flanks flanker target = true := by
  rw [canBackstab, Hex.oppositeOf_neighbor, Option.bind_some]
  cases field.roster.unitAt? targetHex with
  | none => simp
  | some target =>
      cases field.roster.unitAt? (targetHex.neighbor place.opposite) with
      | none => simp
      | some flanker => simp [flanks]

/-- A unit that moves to one side of a target leaves all others who flank the target where they are,
but is behind the target no longer. -/
theorem canBackstab_relocate_iff (consistent : field.roster.Consistent)
    (alive : field.roster.get? id = some unit) {target : UnitId} {defender : Combatant}
    (standing : field.roster.get? target = some defender) (different : id ≠ target)
    (moved : field.relocate id (defender.hex.neighbor place) = .ok after) :
    after.canBackstab (defender.hex.neighbor place) defender.hex = true ↔
      unit.hex ≠ defender.hex.neighbor place.opposite ∧
        field.canBackstab (defender.hex.neighbor place) defender.hex = true := by
  rcases relocate_eq_ok_iff.mp moved with ⟨roster, relocated, rfl⟩
  have elsewhere : unit.hex ≠ defender.hex := fun same =>
    different (consistent.eq_of_hex standing alive same)
  have across : defender.hex.neighbor place ≠ defender.hex.neighbor place.opposite := by
    intro same
    have opposite := defender.hex.neighbor_injective same
    cases place <;> cases opposite
  have there : roster.unitAt? defender.hex = field.roster.unitAt? defender.hex := by
    rw [consistent.unitAt?_relocate alive relocated, if_neg (Hex.neighbor_ne _ _),
      if_neg elsewhere]
  have behind := consistent.unitAt?_relocate alive relocated
    (defender.hex.neighbor place.opposite)
  rw [if_neg across] at behind
  rw [canBackstab_iff, canBackstab_iff]
  simp only [there, behind]
  by_cases leaves : unit.hex = defender.hex.neighbor place.opposite
  · simp [leaves]
  · simp only [ne_eq, leaves, not_false_eq_true, true_and]
    rfl

/-- Who stands behind a target flanks it for the other side. -/
theorem canBackstab_iff_flanks (consistent : field.roster.Consistent)
    (alive : field.roster.get? id = some unit) {target : UnitId} {defender : Combatant}
    (standing : field.roster.get? target = some defender)
    (behind : unit.hex = defender.hex.neighbor place.opposite) :
    field.canBackstab (defender.hex.neighbor place) defender.hex = true ↔
      field.flanks unit defender = true := by
  have there := consistent.unitAt?_eq_some_iff.mpr ⟨target, standing, rfl⟩
  have flanker := consistent.unitAt?_eq_some_iff.mpr ⟨id, alive, behind⟩
  rw [canBackstab_iff]
  simp [there, flanker]

end Battlefield

namespace Approach

variable {α ρ : Type} {context : Context α ρ} {id target : UnitId} {unit defender : Combatant}
  {hex : Hex}

theorem exists_relocate_of_isOpen (consistent : context.field.roster.Consistent)
    (alive : context.field.roster.get? id = some unit)
    (isOpen : isOpen context id unit hex = true) :
    ∃ moved, context.field.relocate id hex = .ok moved ∧
      (Formation.form context.field [(id, hex)]).field = moved := by
  simp only [Approach.isOpen, Bool.and_eq_true] at isOpen
  have free : ∀ other unit', context.field.roster.get? other = some unit' → unit'.hex = hex →
      other = id := by
    rintro other unit' alive' rfl
    have vacant := isOpen.1.2
    rw [consistent.idAt? alive'] at vacant
    simpa using vacant
  rcases Battlefield.exists_relocate consistent alive free with ⟨roster, relocated⟩
  have moved : context.field.relocate id hex = .ok { context.field with roster } :=
    Battlefield.relocate_eq_ok_iff.mpr ⟨roster, relocated, rfl⟩
  exact ⟨_, moved, Formation.field_advance moved⟩

variable [Scalar α]

/-- How little a unit is hit on a hex. -/
def shelter (field : Battlefield) (unit : Combatant) (hex : Hex) : α :=
  Scalar.ofNat (100 - min (unit.chanceToBeHit (field.terrainAt hex)) 100)

/-- The shelter of an approach is doubled for a backstabber not only if someone is behind the target
when it has come there, so that it can stab, but also if it now stands behind the target itself.
Then there is no one behind the target when it has come there. -/
theorem coverRating_eq (consistent : context.field.roster.Consistent)
    (alive : context.field.roster.get? id = some unit)
    (standing : context.field.roster.get? target = some defender) (different : id ≠ target)
    (stabs : unit.wields .backstab = true) (place : Direction)
    (isOpen : isOpen context id unit (defender.hex.neighbor place) = true) :
    (coverRating context.field unit (defender.hex.neighbor place) defender.hex : α) =
      (if (Formation.form context.field [(id, defender.hex.neighbor place)]).field.canBackstab
            (defender.hex.neighbor place) defender.hex = true ∨
          unit.hex = defender.hex.neighbor place.opposite ∧
            context.field.flanks unit defender = true
        then shelter context.field unit (defender.hex.neighbor place) * 2.0
        else shelter context.field unit (defender.hex.neighbor place)) ∧
    (unit.hex = defender.hex.neighbor place.opposite →
      (Formation.form context.field [(id, defender.hex.neighbor place)]).field.canBackstab
        (defender.hex.neighbor place) defender.hex = false) := by
  rcases exists_relocate_of_isOpen consistent alive isOpen with ⟨after, moved, formed⟩
  have real := Battlefield.canBackstab_relocate_iff consistent alive standing different moved
  rw [formed]
  constructor
  · have doubled : context.field.canBackstab (defender.hex.neighbor place) defender.hex = true ↔
        after.canBackstab (defender.hex.neighbor place) defender.hex = true ∨
          unit.hex = defender.hex.neighbor place.opposite ∧
            context.field.flanks unit defender = true := by
      rw [real]
      by_cases behind : unit.hex = defender.hex.neighbor place.opposite
      · rw [Battlefield.canBackstab_iff_flanks consistent alive standing behind]
        simp [behind]
      · simp [behind]
    rw [coverRating, stabs, Bool.true_and]
    exact if_congr doubled rfl rfl
  · intro behind
    rw [Bool.eq_false_iff, ne_eq, real]
    exact fun apart => apart.1 behind

/-- The shelter of the lancer where it stands is doubled: with the skulker behind the sentinel it
can stab. -/
theorem coverRating_eq_pincer :
    (coverRating .pincer .lancer ⟨0, 0⟩ ⟨1, 0⟩ : Float) = shelter .pincer .lancer ⟨0, 0⟩ * 2.0 ∧
      (Formation.form .pincer [(⟨0⟩, ⟨0, 0⟩)]).field.canBackstab ⟨0, 0⟩ ⟨1, 0⟩ = true := by
  have stays : isOpen (Context.begin .pincer ⟨1⟩ (.ofName "default") .terrain [] () :
      Context Float Unit) ⟨0⟩ .lancer (Hex.neighbor Combatant.sentinel.hex .west) = true := by
    decide +kernel
  have sentinel : Battlefield.pincer.roster.get? ⟨1⟩ = some .sentinel := rfl
  have real : (Formation.form .pincer [(⟨0⟩, ⟨0, 0⟩)]).field.canBackstab ⟨0, 0⟩ ⟨1, 0⟩ = true := by
    decide +kernel
  have rated := coverRating_eq Battlefield.consistent_pincer rfl sentinel (by decide) (by decide)
    .west stays
  exact ⟨rated.1.trans (if_pos (Or.inl real)), real⟩

end Approach

/-! ## An alcove -/

def Combatant.thief : Combatant :=
  { (ofType "Thief" ⟨1⟩ ⟨0, 0⟩ 24).withWeapon
      { name := "knife", damage := 4, strikes := 3, range := .melee, damageType := .blade
        specials := [.backstab] } with
    abilities := { skirmisher := true } }

def Battlefield.alcove : Battlefield :=
  { board := (Board.flat 3 2).setTerrain ⟨0, 0⟩ .village
    roster :=
      { slots := #[some .thief, some (.ofType "Watchman" ⟨2⟩ ⟨1, 0⟩ 30)]
        index := ((∅ : Std.ExtTreeMap Hex UnitId).insert ⟨0, 0⟩ ⟨0⟩).insert ⟨1, 0⟩ ⟨1⟩ }
    teams := .twoSides
    time := .dusk
    rules := {} }

def Context.alcove : Context Float Unit :=
  Context.begin .alcove ⟨1⟩ (.ofName "default") .terrain [] ()

namespace Approach

/-- The thief is to go round the watchman and leave the village, since it would stab him in the
back, helped by itself.  But there it has no one to help it. -/
theorem best_alcove_misled :
    (best? Context.alcove ⟨0⟩ .thief ⟨1, 0⟩ []).map Approach.hex = some ⟨2, 0⟩ ∧
      isOpen Context.alcove ⟨0⟩ .thief ⟨2, 0⟩ = true ∧
      (coverRating .alcove .thief ⟨2, 0⟩ ⟨1, 0⟩ : Float) =
        shelter .alcove .thief ⟨2, 0⟩ * 2.0 ∧
      (coverRating .alcove .thief ⟨2, 0⟩ ⟨1, 0⟩ : Float) ≠ shelter .alcove .thief ⟨2, 0⟩ ∧
      (Formation.form .alcove [(⟨0⟩, ⟨2, 0⟩)]).field.canBackstab ⟨2, 0⟩ ⟨1, 0⟩ = false := by
  decide +kernel

end Approach
end Hexfield
