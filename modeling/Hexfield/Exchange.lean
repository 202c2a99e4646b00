import Hexfield.Dice
import Hexfield.Exchange.State
import Hexfield.Matchup

namespace Hexfield

/-!
Exchanges of blows, one swing at a time.

A fight is an exchange together with everything it acts on: the field, the source of rolls and the
memory of the observer.  Each step reads a fresh matchup off the field, draws a roll, settles the
outcome with a given record, if there is one, and applies it.  A step fails only when the caller
broke a promise between two steps, for instance by removing a combatant; it then leaves everything
but the turn as it was.
-/

/-- What an exchange acts on. -/
structure Scene (ρ σ : Type) where
  field : Battlefield
  rolls : ρ
  memory : σ

/-- An exchange that has begun, and what it acts on. -/
structure Fight (ρ σ : Type) extends Scene ρ σ where
  exchange : Exchange

structure Report where
  attacker : UnitId
  defender : UnitId
  swings : List AppliedSwing
  ending : Ending
  /-- Swings whose given record differed from the own outcome. -/
  desyncs : Nat
  /-- The unit that rose through contagion. -/
  spawned : Option UnitId
deriving DecidableEq

/-- The records of all swings in order, as a follower needs them. -/
def Report.records (report : Report) : List SwingRecord :=
  report.swings.map AppliedSwing.record

/-- The report on an exchange.  One that was broken off counts as exhausted. -/
def Exchange.report (exchange : Exchange) : Report :=
  { attacker := exchange.attacker
    defender := exchange.defender
    swings := exchange.swings.toList
    ending := exchange.ending.getD .exhausted
    desyncs := exchange.desyncs
    spawned := exchange.spawned }

/-- The side of a matchup that plays a part. -/
def Matchup.profileOf (matchup : Matchup) : Role → StrikeProfile
  | .attacker => matchup.attacker
  | .defender => matchup.defender

/-- The outcome of a roll, as the striker sees it. -/
def StrikeProfile.outcome (profile : StrikeProfile) (roll : Roll) (targetHitpoints : Nat) :
    SwingRecord :=
  let hit : Bool := roll.val < profile.chanceToHit
  { hit
    damage := if hit then profile.damage else 0
    chance := profile.chanceToHit
    dies := hit && targetHitpoints ≤ profile.damage }

/-- The conditions of a unit that was hit and lives. -/
def StrikeProfile.afflict (profile : StrikeProfile) (unit : Combatant) : Combatant :=
  { unit with
    status :=
      { unit.status with
        poisoned := unit.status.poisoned || profile.poisons
        slowed := unit.status.slowed || profile.slows
        petrified := unit.status.petrified || profile.petrifies } }

namespace Fight

variable {ρ σ : Type}

/-- An announcement reaches the observer, which may change the field. -/
def announce (observer : Observer σ) (announcement : Announcement) (fight : Fight ρ σ) :
    Fight ρ σ :=
  let event : Event := { swing := low32 fight.exchange.swings.size, announcement }
  let (field, memory) := observer.notify event fight.field fight.memory
  { fight with field, memory }

/-- Both combatants learn from having survived: each gains the level of the other. -/
def shareExperience (fight : Fight ρ σ) : Fight ρ σ :=
  match fight.field.roster.get? fight.exchange.attacker,
      fight.field.roster.get? fight.exchange.defender with
  | some attacker, some defender =>
      let rules := fight.field.rules
      let field := fight.field.update fight.exchange.attacker
        (·.gainExperience (rules.experienceForFight defender.level))
      let field := field.update fight.exchange.defender
        (·.gainExperience (rules.experienceForFight attacker.level))
      { fight with field }
  | _, _ => fight

/-- The exchange ends, if it has not ended before.  Only an exchange that ran its course or ended in
stone gives experience for fighting. -/
def finish (observer : Observer σ) (ending : Ending) (fight : Fight ρ σ) : Fight ρ σ :=
  if fight.exchange.isFinished then fight
  else
    let exchange := { fight.exchange with ending := some ending }
    let fight := { fight with exchange }
    let fight :=
      match ending with
      | .exhausted | .petrified => fight.shareExperience
      | _ => fight
    let fight := fight.announce observer (.attackEnd exchange.attacker exchange.defender ending)
    { fight with memory := observer.invalidate exchange.hexes fight.memory }

/-- A contagious death: the victim rises on the killer's side, if the catalog knows the type and the
hex is free. -/
def raise (observer : Observer σ) (catalog : Catalog) (unitType : String) (side : Side) (hex : Hex)
    (fight : Fight ρ σ) : Fight ρ σ :=
  match catalog.instantiate unitType side hex with
  | none => fight
  | some unit =>
      match fight.field.addUnit unit with
      | .error _ => fight
      | .ok (spawned, field) =>
          let exchange := { fight.exchange with spawned := some spawned }
          { fight with field, exchange }.announce observer
            (.contagionSpawn spawned unitType side hex)

/-- A unit has been killed: the killer is rewarded, the death is announced, the victim leaves the
field and may rise again, and the exchange is over. -/
def resolveDeath (observer : Observer σ) (catalog : Catalog) (role : Role)
    (killer victim : Combatant) (contagion : Option String) (fight : Fight ρ σ) : Fight ρ σ :=
  let killerId := fight.exchange.unitOf role
  let victimId := fight.exchange.opponentOf role
  let ending := if victimId = fight.exchange.defender then Ending.defenderDied else .attackerDied
  let reward := fight.field.rules.experienceForKill victim.level
  let fight := { fight with field := fight.field.update killerId (·.gainExperience reward) }
  let fight := fight.announce observer (.death victimId killerId victim.hex)
  let fight := { fight with field := fight.field.erase victimId }
  let fight :=
    match contagion with
    | some unitType => fight.raise observer catalog unitType killer.side victim.hex
    | none => fight
  fight.finish observer ending

/-- The victim's hitpoints go down and the striker's may go up. -/
def deal (role : Role) (profile : StrikeProfile) (damage : Nat) (fight : Fight ρ σ) : Fight ρ σ :=
  let field := fight.field.update (fight.exchange.opponentOf role) (·.takeDamage damage)
  let field :=
    if profile.drains ∧ 0 < damage then
      field.update (fight.exchange.unitOf role) (·.heal (damage / 2))
    else
      field
  { fight with field }

/-- A hit of `striker` on `target`, both as they were before it, is applied to the field. -/
def applyHit (observer : Observer σ) (catalog : Catalog) (role : Role) (profile : StrikeProfile)
    (striker target : Combatant) (record : SwingRecord) (fight : Fight ρ σ) : Fight ρ σ :=
  let damage := min record.damage target.hitpoints
  let fight := fight.deal role profile damage
  if target.hitpoints - damage = 0 then
    fight.resolveDeath observer catalog role striker target profile.contagion
  else
    let field := fight.field.update (fight.exchange.opponentOf role) profile.afflict
    let fight := { fight with field }
    if profile.petrifies then
      let exchange := { fight.exchange with attackerSwings := 0, defenderSwings := 0 }
      { fight with exchange }.finish observer .petrified
    else
      fight

variable [RollSource ρ]

/-- One swing of `striker` at `target`, both as they stand.  The record is that of the applied
outcome. -/
def swing (observer : Observer σ) (catalog : Catalog) (role : Role) (profile : StrikeProfile)
    (striker target : Combatant) (given : Option SwingRecord) (fight : Fight ρ σ) :
    SwingRecord × Fight ρ σ :=
  let (roll, rolls) := RollSource.roll fight.rolls
  let own := profile.outcome roll target.hitpoints
  let record := own.reconciled given target.hitpoints
  let exchange := fight.exchange.spend role
  let exchange :=
    { exchange with
      swings := exchange.swings.push { striker := role, record }
      desyncs := low32 (exchange.desyncs + (own.disputed given).toNat) }
  let fight := { fight with rolls, exchange }
  if record.hit then
    (record, fight.applyHit observer catalog role profile striker target record)
  else
    (record, fight)

/-- The next swing, settled with a given record; no swing, once the exchange is over.  The fight is
returned even if the field no longer allows the swing. -/
def step (observer : Observer σ) (catalog : Catalog) (given : Option SwingRecord)
    (fight : Fight ρ σ) : Except Fault (Option SwingRecord) × Fight ρ σ :=
  match fight.exchange.nextStriker with
  | (none, exchange) => (.ok none, { fight with exchange }.finish observer .exhausted)
  | (some role, exchange) =>
      let fight := { fight with exchange }
      match fight.field.pairing exchange.attacker exchange.defender exchange.weapon with
      | .error fault => (.error fault, fight)
      | .ok pairing =>
          let matchup := pairing.matchup fight.field
          match exchange.armedStriker role matchup.defender.weapon.isSome with
          | (none, exchange) => (.ok none, { fight with exchange }.finish observer .exhausted)
          | (some role, exchange) =>
              let (striker, target) :=
                match role with
                | .attacker => (pairing.attacker, pairing.defender)
                | .defender => (pairing.defender, pairing.attacker)
              let (record, fight) := { fight with exchange }.swing observer catalog role
                (matchup.profileOf role) striker target given
              (.ok (some record), fight)

/-- Steps until the exchange is over, at most `limit` of them; the records are given to the swings
in order. -/
def runFor (observer : Observer σ) (catalog : Catalog) :
    (limit : Nat) → List SwingRecord → Fight ρ σ → Except Fault Unit × Fight ρ σ
  | 0, _, fight => (.ok (), fight)
  | limit + 1, given, fight =>
      if fight.exchange.isFinished then (.ok (), fight)
      else
        match fight.step observer catalog given.head? with
        | (.error fault, fight) => (.error fault, fight)
        | (.ok none, fight) => (.ok (), fight)
        | (.ok (some _), fight) => fight.runFor observer catalog limit given.tail

/-- Steps until the exchange is over.  Each step but the last uses up a swing. -/
def run (observer : Observer σ) (catalog : Catalog) (given : List SwingRecord)
    (fight : Fight ρ σ) : Except Fault Unit × Fight ρ σ :=
  fight.runFor observer catalog (fight.exchange.swingsLeft + 1) given

end Fight

namespace Scene

variable {ρ σ : Type}

/-- An exchange begins.  The attacker's weapon must have a strike; then both combatants stop
resting, and the attack is announced.  An observer may end the exchange right there by removing a
combatant. -/
def begin (observer : Observer σ) (attacker defender : UnitId) (weapon : Nat)
    (scene : Scene ρ σ) : Except Fault (Fight ρ σ) := do
  let attackerUnit ← scene.field.unit attacker
  let chosen ← attackerUnit.weapon weapon
  if chosen.strikes = 0 then throw (.cannotInitiate attacker)
  let pairing ← scene.field.pairing attacker defender weapon
  let matchup := pairing.matchup scene.field
  let rouse (unit : Combatant) : Combatant :=
    { unit with status := { unit.status with resting := false } }
  let exchange : Exchange :=
    { attacker, defender, weapon
      hexes := [pairing.attacker.hex, pairing.defender.hex]
      attackerBudget := matchup.attacker.strikes
      defenderBudget := matchup.defender.strikes
      attackerSwings := matchup.attacker.strikes
      defenderSwings := matchup.defender.strikes
      rounds := max matchup.rounds 1
      preempted := matchup.defenderStrikesFirst
      turn := .attacker
      swings := #[]
      desyncs := 0
      spawned := none
      ending := none }
  let field := (scene.field.update attacker rouse).update defender rouse
  let fight : Fight ρ σ := { scene with field, exchange }
  let fight := fight.announce observer (.attack attacker defender weapon)
  if exchange.bothPresent fight.field then pure fight
  else pure (fight.finish observer .interrupted)

/-- A whole attack.  The scene afterwards is returned even if the attack could not be fought to its
end. -/
def resolve [RollSource ρ] (observer : Observer σ) (catalog : Catalog)
    (attacker defender : UnitId) (weapon : Nat) (given : List SwingRecord) (scene : Scene ρ σ) :
    Except Fault Report × Scene ρ σ :=
  match scene.begin observer attacker defender weapon with
  | .error fault => (.error fault, scene)
  | .ok fight =>
      let (result, fight) := fight.run observer catalog given
      (result.map fun _ => fight.exchange.report, fight.toScene)

end Scene

end Hexfield
