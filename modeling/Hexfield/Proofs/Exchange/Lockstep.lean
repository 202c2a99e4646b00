import Hexfield.Proofs.Exchange.Order
import Hexfield.Proofs.Matchup.Makeup
import Hexfield.Proofs.Simulation.Bounds

namespace Hexfield

/-!
An exchange on the field and its simulation keep in step.

The simulation freezes the numbers of the first matchup and follows vitals only; the exchange reads
its numbers afresh before every swing.  Without slow and without swarming defenders the numbers read
later are those frozen at first, so that the same roll makes the same swing.  Between two swings the
simulated sides have the vitals of the units, and nothing else is to be told of them; the first
swing that decides one exchange decides the other in the same way.

The two tell a death in different ways.  On the field a unit dies of the blow that takes its last
hitpoint; in the simulation a side has died if it ends without hitpoints.  A drain that outgrows the
word can leave its striker standing without any, and there the two part.
-/

/-- The hitpoints of a unit; a unit that is gone has none. -/
def Battlefield.hitpointsOf (field : Battlefield) (id : UnitId) : Nat :=
  ((field.roster.get? id).map Combatant.hitpoints).getD 0

theorem Battlefield.hitpointsOf_of_vitals {field : Battlefield} {id : UnitId} {left : Vitals}
    (placed : (field.roster.get? id).map Combatant.vitals = some left) :
    field.hitpointsOf id = left.hitpoints := by
  rcases Option.map_eq_some_iff.mp placed with ⟨unit, alive, same⟩
  rw [hitpointsOf, alive, ← same]
  rfl

/-- A unit stands on the field without a hitpoint left. -/
def Battlefield.Spent (field : Battlefield) (id : UnitId) : Prop :=
  ∃ unit, field.roster.get? id = some unit ∧ unit.hitpoints = 0

theorem Battlefield.spent_iff_of_vitals {field : Battlefield} {id : UnitId} {left : Vitals}
    (placed : (field.roster.get? id).map Combatant.vitals = some left) :
    field.Spent id ↔ left.hitpoints = 0 := by
  rcases Option.map_eq_some_iff.mp placed with ⟨unit, alive, same⟩
  have hitpoints : unit.hitpoints = left.hitpoints := congrArg Vitals.hitpoints same
  simp only [Spent, alive, Option.some.injEq, exists_eq_left', hitpoints]

theorem Battlefield.not_spent_of_gone {field : Battlefield} {id : UnitId}
    (gone : field.roster.get? id = none) : ¬ field.Spent id := by
  rintro ⟨unit, alive, -⟩
  rw [gone] at alive
  cases alive

theorem Combatant.makeup_afflict {profile : StrikeProfile} (unslowing : profile.slows = false)
    (harmless : profile.petrifies = false) (unit : Combatant) :
    (profile.afflict unit).makeup = unit.makeup := by
  simp [Combatant.makeup, StrikeProfile.afflict, unslowing, harmless]

namespace Fight

variable {ρ σ : Type} {observer : Observer σ} {catalog : Catalog} {role : Role}
  {vitals : Role → Vitals} {fight after : Fight ρ σ}

/-- The combatants are two units with these vitals. -/
structure Paces (fight : Fight ρ σ) (vitals : Role → Vitals) : Prop where
  distinct : fight.exchange.attacker ≠ fight.exchange.defender
  bounded : ∀ role, (vitals role).Bounded
  placed : ∀ role, (fight.field.roster.get? (fight.exchange.unitOf role)).map Combatant.vitals =
    some (vitals role)

/-- The simulated exchange has come to the same as the one on the field. -/
structure Concurs (fight : Fight ρ σ) (bout : Simulation.Bout ρ) : Prop where
  rolls : bout.rolls = fight.rolls
  hitpoints : ∀ role, fight.field.hitpointsOf (fight.exchange.unitOf role) =
    (bout.fighter role).hitpoints
  died : ∀ role, (bout.fighter role).hitpoints = 0 ↔
    fight.exchange.ending = some role.death ∨ fight.field.Spent (fight.exchange.unitOf role)
  gone : ∀ role, fight.exchange.ending = some role.death →
    fight.field.roster.get? (fight.exchange.unitOf role) = none
  petrified : fight.exchange.ending = some .petrified ↔
    ∃ role, (bout.fighter role).petrified = true
  decided : bout.decided = true ↔
    fight.exchange.ending = some .petrified ∨ ∃ role : Role, fight.exchange.ending = some role.death

namespace Paces

/-- Units on a field that keeps vitals are paced by the same vitals. -/
theorem of_keeps (paces : fight.Paces vitals)
    (attacker : after.exchange.attacker = fight.exchange.attacker)
    (defender : after.exchange.defender = fight.exchange.defender)
    (keeps : fight.field.Keeps Combatant.vitals after.field) : after.Paces vitals := by
  refine ⟨?_, paces.bounded, ?_⟩
  · rw [attacker, defender]
    exact paces.distinct
  · intro role
    rw [Exchange.unitOf_congr attacker defender, keeps.units]
    exact paces.placed role

theorem spent_iff (paces : fight.Paces vitals) (role : Role) :
    fight.field.Spent (fight.exchange.unitOf role) ↔ (vitals role).hitpoints = 0 :=
  Battlefield.spent_iff_of_vitals (paces.placed role)

theorem placed_deal_target (paces : fight.Paces vitals) (role : Role) (profile : StrikeProfile)
    (damage : Nat) :
    ((fight.deal role profile damage).field.roster.get? (fight.exchange.opponentOf role)).map
        Combatant.vitals = some ((vitals role.other).wounded damage) := by
  have placed := paces.placed role.other
  rw [Exchange.unitOf_other] at placed
  rcases Option.map_eq_some_iff.mp placed with ⟨unit, alive, same⟩
  rw [get?_deal_target (Exchange.unitOf_ne_opponentOf paces.distinct role), alive, ← same]
  rfl

theorem placed_deal_striker (paces : fight.Paces vitals) (role : Role) (profile : StrikeProfile)
    (damage : Nat) :
    ((fight.deal role profile damage).field.roster.get? (fight.exchange.unitOf role)).map
        Combatant.vitals = some ((vitals role).drained profile damage) := by
  rcases Option.map_eq_some_iff.mp (paces.placed role) with ⟨unit, alive, same⟩
  rcases paces.bounded role with ⟨within, word⟩
  rw [get?_deal_striker (Exchange.unitOf_ne_opponentOf paces.distinct role), alive,
    Option.map_map, Option.map_some]
  rw [← same] at within word ⊢
  apply congrArg some
  simp only [Function.comp, Vitals.drained]
  by_cases drains : profile.drains = true
  · by_cases harm : 0 < damage
    · simp [drains, harm, Combatant.vitals, Combatant.heal]
    · have harmless : damage = 0 := Nat.eq_zero_of_not_pos harm
      simp only [Combatant.vitals] at within word
      simp [drains, harmless, Combatant.vitals, within, low32_of_lt word]
  · simp [drains]

/-- A blow does to the units what it does to their vitals. -/
theorem placed_deal (paces : fight.Paces vitals) (role : Role) (profile : StrikeProfile)
    (damage : Nat) (part : Role) :
    ((fight.deal role profile damage).field.roster.get? (fight.exchange.unitOf part)).map
        Combatant.vitals = some (Vitals.afterHit vitals role profile damage part) := by
  rcases Role.eq_or_eq_other role part with rfl | rfl
  · rw [paces.placed_deal_striker, Vitals.afterHit_striker]
  · rw [Exchange.unitOf_other, paces.placed_deal_target, Vitals.afterHit_target]

theorem bounded_afterHit (paces : fight.Paces vitals) (role : Role) (profile : StrikeProfile)
    (damage : Nat) (part : Role) : (Vitals.afterHit vitals role profile damage part).Bounded := by
  rcases Role.eq_or_eq_other role part with rfl | rfl
  · rw [Vitals.afterHit_striker]
    exact (paces.bounded part).drained profile damage
  · rw [Vitals.afterHit_target]
    exact (paces.bounded role.other).wounded damage

theorem struck (paces : fight.Paces vitals) (role : Role) (profile : StrikeProfile)
    (damage : Nat) :
    ({ fight with field := fight.struck role profile damage }).Paces
      (Vitals.afterHit vitals role profile damage) := by
  refine ⟨paces.distinct, paces.bounded_afterHit role profile damage, ?_⟩
  intro part
  have afflicted := Battlefield.keeps_update Combatant.vitals
    (fun unit => (rfl : (profile.afflict unit).vitals = unit.vitals))
    (fight.deal role profile damage).field (fight.exchange.opponentOf role)
  exact (afflicted.units _).trans (paces.placed_deal role profile damage part)

/-- Between two swings the exchange and the simulation concur. -/
theorem concurs (paces : fight.Paces vitals)
    (undecided : fight.exchange.ending = none ∨ fight.exchange.ending = some .exhausted) :
    fight.Concurs (.between vitals fight.rolls) := by
  have unended : ∀ ending : Ending, ending ≠ .exhausted →
      fight.exchange.ending ≠ some ending := by
    intro ending proper ended
    rcases undecided with going | exhausted
    · rw [going] at ended
      cases ended
    · rw [exhausted] at ended
      exact proper (Option.some.inj ended).symm
  have undead : ∀ role : Role, fight.exchange.ending ≠ some role.death := by
    intro role
    cases role <;> exact unended _ (by decide)
  refine ⟨rfl, ?_, ?_, fun role died => absurd died (undead role), ?_, ?_⟩
  · intro role
    rw [Battlefield.hitpointsOf_of_vitals (paces.placed role), Simulation.Bout.fighter_between]
    rfl
  · intro role
    rw [Simulation.Bout.fighter_between, paces.spent_iff]
    exact ⟨Or.inr, fun spent => spent.resolve_left (undead role)⟩
  · constructor
    · exact fun petrified => absurd petrified (unended .petrified (by decide))
    · rintro ⟨role, petrified⟩
      rw [Simulation.Bout.fighter_between] at petrified
      cases petrified
  · constructor
    · intro decided
      cases decided
    · rintro (petrified | ⟨role, died⟩)
      · exact absurd petrified (unended .petrified (by decide))
      · exact absurd died (undead role)

end Paces

theorem Swung.of_perStrike {profile profile' : StrikeProfile} {striker target : Combatant}
    {record : SwingRecord}
    (swung : Swung observer catalog role profile striker target record fight after)
    (same : profile.perStrike = profile'.perStrike) :
    Swung observer catalog role profile' striker target record fight after := by
  have renamed : profile = { profile' with strikes := profile.strikes } :=
    (congrArg (fun strike => { strike with strikes := profile.strikes }) same :)
  rw [renamed] at swung
  cases swung with
  | missed miss => exact .missed miss
  | endured hit survived harmless => exact .endured hit survived harmless
  | petrified hit survived petrifies => exact .petrified hit survived petrifies
  | killed hit lethal => exact .killed hit lethal

/-- After a death the victim is gone, and its killer has drained it. -/
theorem Paces.units_of_death (paces : fight.Paces vitals) (leaves : observer.LeavesField)
    (going : fight.exchange.ending = none) (catalog : Catalog) (role : Role)
    (profile : StrikeProfile) (damage : Nat) (striker target : Combatant) :
    let buried := (fight.deal role profile damage).resolveDeath observer catalog role striker target
      profile.contagion
    buried.field.roster.get? (buried.exchange.unitOf role.other) = none ∧
      (buried.field.roster.get? (buried.exchange.unitOf role)).map Combatant.vitals =
        some (Vitals.afterHit vitals role profile damage role) := by
  intro buried
  have names : ∀ part, buried.exchange.unitOf part = fight.exchange.unitOf part := by
    intro part
    have ended : buried.exchange = _ := exchange_resolveDeath catalog role striker target
      profile.contagion going
    rw [ended]
    cases part <;> rfl
  have units : ∀ part, (buried.field.roster.get? (fight.exchange.unitOf part)).map
      Combatant.vitals =
        if fight.exchange.opponentOf role = fight.exchange.unitOf part then none
        else some (Vitals.afterHit vitals role profile damage part) := by
    intro part
    have placed := paces.placed_deal role profile damage part
    rcases Option.map_eq_some_iff.mp placed with ⟨unit, alive, -⟩
    rw [← placed]
    exact units_resolveDeath Combatant.vitals leaves (fun _ _ => rfl) catalog role striker target
      profile.contagion _ (Roster.lt_size_of_get? alive)
  constructor
  · rw [names]
    apply Option.map_eq_none_iff.mp
    rw [units, if_pos (fight.exchange.unitOf_other role).symm]
  · rw [names, units, if_neg (Ne.symm (Exchange.unitOf_ne_opponentOf paces.distinct role))]

/-- A death on the field concurs with a death in the simulation. -/
theorem concurs_of_death {bout : Simulation.Bout ρ} {survivor victim : Vitals}
    (rolls : bout.rolls = after.rolls) (decided : bout.decided = true)
    (ending : after.exchange.ending = some role.other.death)
    (gone : after.field.roster.get? (after.exchange.unitOf role.other) = none)
    (placed : (after.field.roster.get? (after.exchange.unitOf role)).map Combatant.vitals =
      some survivor)
    (lethal : victim.hitpoints = 0) (striker : bout.fighter role = .ofVitals survivor)
    (target : bout.fighter role.other = .ofVitals victim) : after.Concurs bout := by
  have survives : after.exchange.ending ≠ some role.death := by
    rw [ending]
    cases role <;> decide
  refine ⟨rolls, ?_, ?_, ?_, ?_, iff_of_true decided (Or.inr ⟨role.other, ending⟩)⟩
  · intro part
    rcases Role.eq_or_eq_other role part with rfl | rfl
    · rw [Battlefield.hitpointsOf_of_vitals placed, striker]
      rfl
    · rw [target, Battlefield.hitpointsOf, gone]
      exact lethal.symm
  · intro part
    rcases Role.eq_or_eq_other role part with rfl | rfl
    · rw [striker, Battlefield.spent_iff_of_vitals placed]
      exact ⟨Or.inr, fun spent => spent.resolve_left survives⟩
    · rw [target]
      exact ⟨fun _ => Or.inl ending, fun _ => lethal⟩
  · intro part died
    rcases Role.eq_or_eq_other role part with rfl | rfl
    · exact absurd died survives
    · exact gone
  · rw [ending]
    constructor
    · intro same
      cases role <;> cases same
    · rintro ⟨part, petrified⟩
      rcases Role.eq_or_eq_other role part with rfl | rfl
      · rw [striker] at petrified
        cases petrified
      · rw [target] at petrified
        cases petrified

/-- A unit turned to stone on the field concurs with a side turned to stone in the simulation. -/
theorem Paces.concurs_of_stone {bout : Simulation.Bout ρ} (paces : after.Paces vitals)
    (rolls : bout.rolls = after.rolls) (decided : bout.decided = true)
    (ending : after.exchange.ending = some .petrified)
    (striker : bout.fighter role = .ofVitals (vitals role))
    (target : bout.fighter role.other =
      { Simulation.Fighter.ofVitals (vitals role.other) with petrified := true }) :
    after.Concurs bout := by
  have same : ∀ part, (bout.fighter part).hitpoints = (vitals part).hitpoints := by
    intro part
    rcases Role.eq_or_eq_other role part with rfl | rfl
    · rw [striker]
      rfl
    · rw [target]
      rfl
  have undead : ∀ part : Role, after.exchange.ending ≠ some part.death := by
    intro part
    rw [ending]
    cases part <;> decide
  refine ⟨rolls, ?_, ?_, fun part died => absurd died (undead part), ?_,
    iff_of_true decided (Or.inl ending)⟩
  · intro part
    rw [same, Battlefield.hitpointsOf_of_vitals (paces.placed part)]
  · intro part
    rw [same, paces.spent_iff]
    exact ⟨Or.inr, fun spent => spent.resolve_left (undead part)⟩
  · rw [ending]
    constructor
    · intro _
      exact ⟨role.other, by rw [target]⟩
    · intro _
      rfl

/-- A hit that petrifies ends the exchange, with the vitals that the hit leaves. -/
theorem Paces.petrified (paces : fight.Paces vitals) (leaves : observer.LeavesField)
    (going : fight.exchange.ending = none) (role : Role) (profile : StrikeProfile) (damage : Nat) :
    let stopped : Fight ρ σ :=
      { fight with
        field := fight.struck role profile damage
        exchange := { fight.exchange with attackerSwings := 0, defenderSwings := 0 } }
    (finish observer .petrified stopped).exchange.ending = some .petrified ∧
      (finish observer .petrified stopped).Paces
        (Vitals.afterHit vitals role profile damage) := by
  intro stopped
  have ended : (finish observer .petrified stopped).exchange =
      { stopped.exchange with ending := some .petrified } := exchange_finish .petrified going
  constructor
  · rw [ended]
  · apply (paces.struck role profile damage).of_keeps
    · rw [ended]
    · rw [ended]
    · exact keeps_finish Combatant.vitals leaves (fun _ _ => rfl) .petrified stopped

/-- Where drains fit, no one is left standing without hitpoints, so both tell of the same deaths. -/
theorem Concurs.died_iff {bout : Simulation.Bout ρ} (concurs : fight.Concurs bout)
    {matchup : Matchup} (physical : bout.Physical matchup vitals)
    (fits : matchup.DrainsFit vitals) (role : Role) :
    fight.exchange.ending = some role.death ↔ (bout.fighter role).hitpoints = 0 := by
  rw [concurs.died role]
  refine ⟨Or.inl, fun died => died.resolve_right fun spent => ?_⟩
  have unburied : fight.exchange.ending ≠ some role.death :=
    fun ended => Battlefield.not_spent_of_gone (concurs.gone role ended) spent
  have dead := (concurs.died role).mpr (Or.inr spent)
  have single := physical.mishaps_le_one fits role
  have mishap : (bout.fighter role).mishaps ≠ 0 :=
    fun none => (Simulation.Fighter.mishaps_eq_zero_iff.mp none).1 dead
  have other : (bout.fighter role.other).mishaps = 0 := by omega
  rcases Simulation.Fighter.mishaps_eq_zero_iff.mp other with ⟨alive, flesh⟩
  rcases concurs.decided.mp (physical.decided_of_mishap fits mishap) with stone | ⟨part, buried⟩
  · rcases concurs.petrified.mp stone with ⟨part, petrified⟩
    rcases Role.eq_or_eq_other role part with rfl | rfl
    · rw [Simulation.Fighter.mishaps, decide_eq_true dead, petrified, Bool.toNat_true] at single
      omega
    · rw [flesh] at petrified
      cases petrified
  · rcases Role.eq_or_eq_other role part with rfl | rfl
    · exact unburied buried
    · exact alive ((concurs.died role.other).mpr (Or.inl buried))

variable [RollSource ρ]

/-- A miss changes nothing, here and there, but that a roll is used up. -/
theorem Swung.eq_of_miss {matchup : Matchup} {striker target : Combatant} {record : SwingRecord}
    {rolls : ρ}
    (swung : Swung observer catalog role (matchup.profileOf role) striker target record fight after)
    (misses : ¬ (RollSource.roll rolls).1.val < (matchup.profileOf role).chanceToHit)
    (drawn : fight.rolls = (RollSource.roll rolls).2)
    (own : record = (matchup.profileOf role).outcome (RollSource.roll rolls).1 target.hitpoints) :
    after = fight ∧ ∀ vitals : Role → Vitals,
      Simulation.swing matchup role.mark (.between vitals rolls) =
        .between vitals after.rolls := by
  have miss : record.hit = false := by
    rw [own]
    exact decide_eq_false misses
  have same : after = fight := by
    rw [swung.after_eq, miss]
    rfl
  subst same
  refine ⟨rfl, fun vitals => ?_⟩
  rw [Simulation.swing_of_miss (.between vitals rolls) misses, drawn]
  rfl

/-- A swing on the field and the same swing in the simulation lead to vitals that are the same
again, or decide both in the same way. -/
theorem Swung.keepsPace {matchup : Matchup} {striker target : Combatant} {record : SwingRecord}
    {rolls : ρ}
    (swung : Swung observer catalog role (matchup.profileOf role) striker target record fight after)
    (leaves : observer.LeavesField) (going : fight.exchange.ending = none)
    (paces : fight.Paces vitals) (unslowing : (matchup.profileOf role).slows = false)
    (drawn : fight.rolls = (RollSource.roll rolls).2)
    (aimed : target.hitpoints = (vitals role.other).hitpoints)
    (own : record = (matchup.profileOf role).outcome (RollSource.roll rolls).1 target.hitpoints)
    {bout : Simulation.Bout ρ}
    (simulated : bout = Simulation.swing matchup role.mark (.between vitals rolls)) :
    (bout.decided = false ∧ after.exchange.ending = none ∧
        fight.field.Keeps Combatant.makeup after.field ∧
        ∃ left, after.Paces left ∧ bout = .between left after.rolls) ∨
      (bout.decided = true ∧ after.exchange.ending ≠ none ∧ after.Concurs bout) := by
  have rollsAfter := swung.rolls_eq.trans drawn
  by_cases hits : (RollSource.roll rolls).1.val < (matchup.profileOf role).chanceToHit
  · have recordHits : record.hit = true := by
      rw [own]
      exact decide_eq_true hits
    have damage : record.damage = (matchup.profileOf role).damage := by
      rw [own]
      simp [StrikeProfile.outcome, hits]
    rcases Simulation.swing_of_hit rolls hits unslowing vitals with
      ⟨boutRolls, killer, victim, decided⟩
    rw [← simulated] at boutRolls killer victim decided
    rw [← aimed, ← damage] at killer victim decided
    have left : (Vitals.afterHit vitals role (matchup.profileOf role)
        (min record.damage target.hitpoints) role.other).hitpoints =
        target.hitpoints - min record.damage target.hitpoints := by
      rw [Vitals.afterHit_target, aimed]
      rfl
    cases swung with
    | missed miss =>
        rw [miss] at recordHits
        cases recordHits
    | endured hit survived harmless =>
        have alive := survived
        rw [← left] at alive
        have undecided : bout.decided = false := by
          rw [decided, harmless, Bool.or_false]
          exact decide_eq_false alive
        have fighters : ∀ part, bout.fighter part = .ofVitals (Vitals.afterHit vitals role
            (matchup.profileOf role) (min record.damage target.hitpoints) part) := by
          intro part
          rcases Role.eq_or_eq_other role part with rfl | rfl
          · exact killer
          · rw [victim, harmless, Bool.and_false]
            rfl
        refine Or.inl ⟨undecided, going, ?_, _, paces.struck role _ _, ?_⟩
        · exact keeps_struck Combatant.makeup (fun _ _ => rfl) (fun _ _ => rfl)
            (Combatant.makeup_afflict unslowing harmless) role _ fight
        · rw [Simulation.Bout.eq_between fighters undecided, boutRolls, rollsAfter]
    | petrified hit survived petrifies =>
        have alive := survived
        rw [← left] at alive
        rcases paces.petrified leaves going role (matchup.profileOf role)
          (min record.damage target.hitpoints) with ⟨ending, kept⟩
        have stops : bout.decided = true := by rw [decided, petrifies, Bool.or_true]
        refine Or.inr ⟨stops, ?_, ?_⟩
        · rw [ending]
          exact Option.some_ne_none _
        · apply kept.concurs_of_stone (boutRolls.trans rollsAfter.symm) stops ending killer
          rw [victim, petrifies, Bool.and_true, decide_eq_true alive]
    | killed hit lethal =>
        have dead := lethal
        rw [← left] at dead
        have ending := ending_resolveDeath observer catalog role striker target
          (matchup.profileOf role).contagion
          (fight.deal role (matchup.profileOf role) (min record.damage target.hitpoints)) going
          paces.distinct
        have stops : bout.decided = true := by rw [decided, decide_eq_true dead, Bool.true_or]
        refine Or.inr ⟨stops, ?_, ?_⟩
        · rw [ending]
          exact Option.some_ne_none _
        · rcases paces.units_of_death leaves going catalog role (matchup.profileOf role)
            (min record.damage target.hitpoints) striker target with ⟨gone, placed⟩
          apply concurs_of_death (boutRolls.trans rollsAfter.symm) stops ending gone placed dead
            killer
          rw [victim, decide_eq_false (not_not.mpr dead), Bool.false_and]
          rfl
  · rcases swung.eq_of_miss hits drawn own with ⟨rfl, missed⟩
    have same := simulated.trans (missed vitals)
    refine Or.inl ⟨?_, going, .refl _ _, vitals, paces, same⟩
    rw [same]
    rfl

/-- The numbers of an attack that its simulation freezes, from a field on which no one slows the
other and the defender does not swarm. -/
structure Frozen (matchup : Matchup) (field : Battlefield) (attacker defender : UnitId)
    (weapon : Nat) : Prop where
  unslowing : ∀ role, (matchup.profileOf role).slows = false
  steady : ∀ {later : Battlefield} {pairing : Pairing},
    field.Keeps Combatant.makeup later →
      later.pairing attacker defender weapon = .ok pairing →
      ∀ role, ((pairing.matchup later).profileOf role).perStrike =
        (matchup.profileOf role).perStrike

/-- The fight has come from a field without a change of makeups. -/
structure InStep (field : Battlefield) (attacker defender : UnitId) (weapon : Nat)
    (vitals : Role → Vitals) (fight : Fight ρ σ) : Prop where
  ready : fight.Ready
  paces : fight.Paces vitals
  attacker : fight.exchange.attacker = attacker
  defender : fight.exchange.defender = defender
  weapon : fight.exchange.weapon = weapon
  keeps : field.Keeps Combatant.makeup fight.field

variable {matchup : Matchup} {field : Battlefield} {attacker defender : UnitId} {weapon : Nat}

/-- A step on the field and the same swing in the simulation keep in step, or decide both in the
same way. -/
theorem InStep.step (inStep : fight.InStep field attacker defender weapon vitals)
    (frozen : Frozen matchup field attacker defender weapon) (leaves : observer.LeavesField)
    (catalog : Catalog) {mark : Bool} {rest : List Bool}
    (upcoming : fight.exchange.upcoming = mark :: rest) :
    ∃ swing after,
      fight.step observer catalog none = (.ok (some swing.record), after) ∧
        after.exchange.swings = fight.exchange.swings.push swing ∧
        after.rolls = (RollSource.roll fight.rolls).2 ∧
        after.exchange.attacker = attacker ∧ after.exchange.defender = defender ∧
        ((Simulation.swing matchup mark (.between vitals fight.rolls)).decided = false ∧
            after.exchange.upcoming = rest ∧
            (∃ left, after.InStep field attacker defender weapon left ∧
              Simulation.swing matchup mark (.between vitals fight.rolls) =
                .between left after.rolls) ∨
          (Simulation.swing matchup mark (.between vitals fight.rolls)).decided = true ∧
            (∃ ending, after.exchange.ending = some ending) ∧
            after.Concurs (Simulation.swing matchup mark (.between vitals fight.rolls))) := by
  rcases inStep.ready.step_of_upcoming observer catalog upcoming none with
    ⟨role, exchange, pairing, after, due, stepped, swung⟩
  have books := due.bookedDue_exchange none
  have going : (fight.bookedDue role exchange pairing none).exchange.ending = none := by
    rw [books]
    exact inStep.ready.going
  have frame := swung.exchange_eq going
  rw [books] at frame
  have paired : fight.field.pairing attacker defender weapon = .ok pairing := by
    have paired := due.paired
    rw [inStep.attacker, inStep.defender, inStep.weapon] at paired
    exact paired
  have strike := frozen.steady inStep.keeps paired role
  have paces : (fight.bookedDue role exchange pairing none).Paces vitals := by
    apply inStep.paces.of_keeps
    · rw [books]
    · rw [books]
    · exact .refl _ _
  have aimed : (pairing.opponentOf role).hitpoints = (vitals role.other).hitpoints := by
    have placed := inStep.paces.placed role.other
    rw [Exchange.unitOf_other, due.target_alive] at placed
    exact congrArg Vitals.hitpoints (Option.some.inj placed)
  have own : fight.dueRecord role pairing none =
      (matchup.profileOf role).outcome (RollSource.roll fight.rolls).1
        (pairing.opponentOf role).hitpoints :=
    (congrArg (fun profile => StrikeProfile.outcome profile (RollSource.roll fight.rolls).1
      (pairing.opponentOf role).hitpoints) strike :)
  have simulated := congrArg (fun mark =>
    Simulation.swing matchup mark (.between vitals fight.rolls)) due.marked.symm
  refine ⟨{ striker := role, record := fight.dueRecord role pairing none }, after, stepped, ?_,
    swung.rolls_eq, ?_, ?_, ?_⟩
  · rw [frame]
  · rw [frame]
    exact inStep.attacker
  · rw [frame]
    exact inStep.defender
  · rcases (swung.of_perStrike strike).keepsPace leaves going paces (frozen.unslowing role) rfl
      aimed own simulated with
      ⟨undecided, unended, keeps, left, kept, same⟩ | ⟨decided, ended, concurs⟩
    · rcases due.ready_or_fells leaves inStep.ready.going swung with
        ⟨ready, upcomingLeft, -⟩ | ⟨ending, ended, -⟩
      · refine Or.inl ⟨undecided, upcomingLeft, left, ⟨ready, kept, ?_, ?_, ?_, ?_⟩, same⟩
        · rw [frame]
          exact inStep.attacker
        · rw [frame]
          exact inStep.defender
        · rw [frame]
          exact inStep.weapon
        · exact inStep.keeps.trans keeps
      · rw [unended] at ended
        cases ended
    · exact Or.inr ⟨decided, Option.ne_none_iff_exists'.mp ended, concurs⟩

/-- A run on the field and the round that simulates it come to the same. -/
theorem InStep.runFor (frozen : Frozen matchup field attacker defender weapon)
    (leaves : observer.LeavesField) (catalog : Catalog) (due : List Bool) :
    ∀ {fight : Fight ρ σ} {vitals : Role → Vitals} {limit : Nat},
      fight.InStep field attacker defender weapon vitals → fight.exchange.upcoming = due →
      due.length < limit →
      ∃ final made, fight.runFor observer catalog limit [] = (.ok (), final) ∧
        final.exchange.swings.toList = fight.exchange.swings.toList ++ made ∧
        final.rolls = (RollSource.take made.length fight.rolls).2 ∧
        final.exchange.attacker = attacker ∧ final.exchange.defender = defender ∧
        final.Concurs (Simulation.playRound matchup due (.between vitals fight.rolls)) := by
  induction due with
  | nil =>
      intro fight vitals limit inStep upcoming enough
      rcases Nat.exists_eq_succ_of_ne_zero (Nat.ne_of_gt enough) with ⟨limit, rfl⟩
      rcases inStep.ready.runFor_of_usedUp observer catalog upcoming limit [] with
        ⟨exchange, turned, ran⟩
      have going : exchange.ending = none := by
        rw [turned]
        exact inStep.ready.going
      have ended : (finish observer .exhausted { fight with exchange }).exchange =
          { exchange with ending := some .exhausted } := exchange_finish .exhausted going
      have paces : (finish observer .exhausted { fight with exchange }).Paces vitals := by
        apply inStep.paces.of_keeps
        · rw [ended, turned]
        · rw [ended, turned]
        · exact keeps_finish Combatant.vitals leaves (fun _ _ => rfl) .exhausted
            { fight with exchange }
      refine ⟨_, [], ran, ?_, ?_, ?_, ?_, ?_⟩
      · rw [ended, turned]
        exact (List.append_nil _).symm
      · exact rolls_finish _ _
      · rw [ended, turned]
        exact inStep.attacker
      · rw [ended, turned]
        exact inStep.defender
      · have concurs := paces.concurs (Or.inr (by rw [ended]))
        rw [rolls_finish] at concurs
        exact concurs
  | cons mark rest ih =>
      intro fight vitals limit inStep upcoming enough
      rcases inStep.step frozen leaves catalog upcoming with
        ⟨swing, after, stepped, swings, drawn, attackerName, defenderName, outcome⟩
      rcases Nat.exists_eq_succ_of_ne_zero (Nat.ne_of_gt (Nat.zero_lt_of_lt enough)) with
        ⟨limit, rfl⟩
      have ran : fight.runFor observer catalog (limit + 1) [] =
          after.runFor observer catalog limit [] :=
        runFor_of_step inStep.ready.going stepped limit
      rcases outcome with ⟨undecided, upcomingLeft, left, next, same⟩ | ⟨decided, ended, concurs⟩
      · rcases ih next upcomingLeft (Nat.lt_of_succ_lt_succ enough) with
          ⟨final, made, ranOn, madeSwings, drawnOn, attackerLast, defenderLast, concurs⟩
        refine ⟨final, swing :: made, ran.trans ranOn, ?_, ?_, attackerLast, defenderLast, ?_⟩
        · rw [madeSwings, swings, Array.toList_push, List.append_assoc, List.singleton_append]
        · rw [drawnOn, drawn]
          rfl
        · rw [Simulation.playRound, undecided, same]
          exact concurs
      · rcases ended with ⟨ending, ended⟩
        refine ⟨after, [swing], ran.trans (runFor_of_ended ended _ _), ?_, drawn,
          attackerName, defenderName, ?_⟩
        · rw [swings, Array.toList_push]
        · rw [Simulation.playRound, decided]
          exact concurs

end Fight

theorem Exchange.report_ending_iff {exchange : Exchange} {ending : Ending}
    (proper : ending ≠ .exhausted) :
    exchange.report.ending = ending ↔ exchange.ending = some ending := by
  rw [Exchange.report]
  cases ended : exchange.ending with
  | none =>
      constructor
      · intro same
        exact absurd same.symm proper
      · intro same
        cases same
  | some found => exact ⟨congrArg some, Option.some.inj⟩

/-- The vitals of the two units of a pairing. -/
def Pairing.vitals (pairing : Pairing) (role : Role) : Vitals :=
  (pairing.unitOf role).vitals

namespace Scene

variable {ρ σ : Type} {observer : Observer σ} {scene : Scene ρ σ} {attacker defender : UnitId}
  {weapon : Nat} {pairing : Pairing}

theorem frozen_of_pairing {field : Battlefield}
    (paired : field.pairing attacker defender weapon = .ok pairing)
    (unslowing : pairing.weapon.hasSpecial .slow = false)
    (unslowingCounter : ∀ counter ∈ pairing.counter, counter.2.hasSpecial .slow = false)
    (orderly : ∀ carried ∈ pairing.defender.weapons, carried.hasSpecial .swarm = false) :
    Fight.Frozen (pairing.matchup field) field attacker defender weapon := by
  refine ⟨?_, fun keeps later => keeps.perStrike_profileOf paired later orderly⟩
  intro role
  cases role with
  | attacker => exact unslowing
  | defender =>
      simp only [Matchup.profileOf, Pairing.matchup, Pairing.defenderProfile]
      cases answer : pairing.counter with
      | none => rfl
      | some counter => exact unslowingCounter counter answer

/-- An exchange starts in step with its simulation. -/
theorem inStep_of_begin (leaves : observer.LeavesField)
    (paired : scene.field.pairing attacker defender weapon = .ok pairing)
    (distinct : attacker ≠ defender) (bounded : ∀ role, (pairing.vitals role).Bounded)
    {fight : Fight ρ σ} (begun : scene.begin observer attacker defender weapon = .ok fight) :
    fight.InStep scene.field attacker defender weapon pairing.vitals ∧
      fight.exchange.upcoming = (pairing.matchup scene.field).schedule ∧
      fight.rolls = scene.rolls ∧ fight.exchange.swings = #[] := by
  rcases ready_of_begin leaves begun with
    ⟨matchup, matched, ready, upcoming, attackerName, defenderName, unswung, -⟩
  rcases opened_of_begin leaves begun with ⟨again, pairedAgain, -, field, drawn, opened⟩
  cases paired.symm.trans pairedAgain
  rw [Battlefield.matchup, paired] at matched
  cases matched
  rcases Battlefield.units_of_pairing paired with ⟨attackerAlive, defenderAlive⟩
  have keepsVitals := scene.field.keeps_rouse Combatant.vitals (fun _ => rfl) attacker defender
  refine ⟨⟨ready, ⟨?_, bounded, ?_⟩, attackerName, defenderName, ?_, ?_⟩, upcoming, drawn, unswung⟩
  · rw [attackerName, defenderName]
    exact distinct
  · intro role
    rw [field, keepsVitals.units]
    cases role with
    | attacker =>
        rw [Exchange.unitOf, attackerName, attackerAlive]
        rfl
    | defender =>
        rw [Exchange.unitOf, defenderName, defenderAlive]
        rfl
  · rw [opened]
    rcases Battlefield.pairing_eq_ok_iff.mp paired with ⟨_, _, _, -, -, -, rfl⟩
    rfl
  · rw [field]
    exact scene.field.keeps_rouse Combatant.makeup (fun _ => rfl) attacker defender

/-- Without slow and without a defender that swarms, an attack comes to the same as its simulation
from the first matchup. -/
theorem resolve_concurs [RollSource ρ] (leaves : observer.LeavesField) (catalog : Catalog)
    (paired : scene.field.pairing attacker defender weapon = .ok pairing)
    (armed : 0 < pairing.weapon.strikes) (distinct : attacker ≠ defender)
    (bounded : ∀ role, (pairing.vitals role).Bounded)
    (unslowing : pairing.weapon.hasSpecial .slow = false)
    (unslowingCounter : ∀ counter ∈ pairing.counter, counter.2.hasSpecial .slow = false)
    (orderly : ∀ carried ∈ pairing.defender.weapons, carried.hasSpecial .swarm = false) :
    ∃ final : Fight ρ σ,
      scene.resolve observer catalog attacker defender weapon [] =
          (.ok final.exchange.report, final.toScene) ∧
        final.rolls = (RollSource.take final.exchange.report.swings.length scene.rolls).2 ∧
        final.exchange.attacker = attacker ∧ final.exchange.defender = defender ∧
        final.Concurs (Simulation.run (pairing.matchup scene.field) pairing.attacker.vitals
          pairing.defender.vitals scene.rolls) := by
  rcases begin_of_pairing leaves paired (Nat.ne_of_gt armed) with ⟨fight, begun, -⟩
  rcases inStep_of_begin leaves paired distinct bounded begun with
    ⟨inStep, upcoming, drawn, unswung⟩
  have frozen := frozen_of_pairing paired unslowing unslowingCounter orderly
  have enough := Exchange.length_lt_of_upcoming upcoming
  rcases inStep.runFor frozen leaves catalog _ upcoming enough with
    ⟨final, made, ran, swings, rollsLeft, attackerName, defenderName, concurs⟩
  rw [← Simulation.run_eq_playRound] at concurs
  have swingsMade : final.exchange.report.swings = made := by
    rw [Exchange.report, swings, unswung]
    rfl
  rw [drawn] at rollsLeft concurs
  refine ⟨final, resolve_of_run begun ran, ?_, attackerName, defenderName, concurs⟩
  rw [swingsMade, rollsLeft]

/-- Without slow and without a defender that swarms, an exchange on the field and its simulation
from the first matchup draw the same rolls and come to the same: the same hitpoints on both sides,
and stone where a side is turned to stone.  A side is left without hitpoints in the simulation
exactly if it has died on the field or stands there without any; and the latter does not happen if
no drain can outgrow the word of the hitpoints. -/
theorem resolve_agrees_with_play [RollSource ρ] (leaves : observer.LeavesField)
    (catalog : Catalog) (paired : scene.field.pairing attacker defender weapon = .ok pairing)
    (armed : 0 < pairing.weapon.strikes) (distinct : attacker ≠ defender)
    (attackerSound : pairing.attacker.vitals.Sound)
    (defenderSound : pairing.defender.vitals.Sound)
    (attackerWord : pairing.attacker.hitpoints < UInt32.size)
    (defenderWord : pairing.defender.hitpoints < UInt32.size)
    (unslowing : pairing.weapon.hasSpecial .slow = false)
    (unslowingCounter : ∀ counter ∈ pairing.counter, counter.2.hasSpecial .slow = false)
    (orderly : ∀ carried ∈ pairing.defender.weapons, carried.hasSpecial .swarm = false) :
    ∃ matchup report final outcome rolls,
      scene.field.matchup attacker defender weapon = .ok matchup ∧
        scene.resolve observer catalog attacker defender weapon [] = (.ok report, final) ∧
        Simulation.play matchup pairing.attacker.vitals pairing.defender.vitals scene.rolls =
          (outcome, rolls) ∧
        final.rolls = rolls ∧
        rolls = (RollSource.take report.swings.length scene.rolls).2 ∧
        final.field.hitpointsOf attacker = outcome.attackerHitpoints ∧
        final.field.hitpointsOf defender = outcome.defenderHitpoints ∧
        (outcome.attackerHitpoints = 0 ↔
          report.ending = .attackerDied ∨ final.field.Spent attacker) ∧
        (outcome.defenderHitpoints = 0 ↔
          report.ending = .defenderDied ∨ final.field.Spent defender) ∧
        (matchup.DrainsFit pairing.vitals →
          (report.ending = .attackerDied ↔ outcome.attackerHitpoints = 0) ∧
            (report.ending = .defenderDied ↔ outcome.defenderHitpoints = 0)) ∧
        (report.ending = .petrified ↔
          outcome.attackerPetrified = true ∨ outcome.defenderPetrified = true) := by
  have sound : ∀ role, (pairing.vitals role).Sound := by
    intro role
    cases role with
    | attacker => exact attackerSound
    | defender => exact defenderSound
  have bounded : ∀ role, (pairing.vitals role).Bounded := by
    intro role
    cases role with
    | attacker => exact ⟨attackerSound.within, attackerWord⟩
    | defender => exact ⟨defenderSound.within, defenderWord⟩
  rcases resolve_concurs leaves catalog paired armed distinct bounded unslowing unslowingCounter
    orderly with ⟨final, resolved, drawn, attackerName, defenderName, concurs⟩
  have attackerLeft := concurs.hitpoints .attacker
  have defenderLeft := concurs.hitpoints .defender
  have attackerDied := concurs.died .attacker
  have defenderDied := concurs.died .defender
  rw [Exchange.unitOf, attackerName] at attackerLeft attackerDied
  rw [Exchange.unitOf, defenderName] at defenderLeft defenderDied
  refine ⟨pairing.matchup scene.field, final.exchange.report, final.toScene, _, _,
    Battlefield.matchup_of_pairing paired, resolved, rfl, concurs.rolls.symm,
    concurs.rolls.trans drawn, attackerLeft, defenderLeft, ?_, ?_, ?_, ?_⟩
  · rw [Exchange.report_ending_iff (by decide)]
    exact attackerDied
  · rw [Exchange.report_ending_iff (by decide)]
    exact defenderDied
  · intro fits
    have physical := Simulation.physical_run (pairing.matchup scene.field) sound scene.rolls
    rw [Exchange.report_ending_iff (by decide), Exchange.report_ending_iff (by decide)]
    exact ⟨concurs.died_iff physical fits .attacker, concurs.died_iff physical fits .defender⟩
  · rw [Exchange.report_ending_iff (by decide), concurs.petrified]
    constructor
    · rintro ⟨role, stone⟩
      cases role with
      | attacker => exact Or.inl stone
      | defender => exact Or.inr stone
    · rintro (stone | stone)
      · exact ⟨.attacker, stone⟩
      · exact ⟨.defender, stone⟩

/-- The raider's attack on the guard agrees with its simulation. -/
theorem resolve_agrees_with_play_skirmish :
    ∃ matchup report final,
      Battlefield.skirmish.matchup ⟨0⟩ ⟨1⟩ 0 = .ok matchup ∧
        resolve .silent {} ⟨0⟩ ⟨1⟩ 0 []
          ⟨.skirmish, ScriptedDice.ofArray #[10, 60, 35], ()⟩ = (.ok report, final) ∧
        let played :=
          Simulation.play matchup ⟨34, 34⟩ ⟨42, 42⟩ (ScriptedDice.ofArray #[10, 60, 35])
        final.rolls = played.2 ∧
          (report.ending = .attackerDied ↔ played.1.attackerHitpoints = 0) ∧
          (report.ending = .defenderDied ↔ played.1.defenderHitpoints = 0) := by
  let start : Scene ScriptedDice Unit := ⟨.skirmish, ScriptedDice.ofArray #[10, 60, 35], ()⟩
  have paired : start.field.pairing ⟨0⟩ ⟨1⟩ 0 = .ok _ := Battlefield.pairing_skirmish
  have unslowingCounter : ∀ counter ∈
      (Battlefield.skirmish.pair .raider .guard 0 .bloodSword).counter,
      counter.2.hasSpecial .slow = false := by
    intro counter answers
    have spear : counter.2 = .spear :=
      List.mem_singleton.mp (Battlefield.mem_weapons_of_counter answers)
    rw [spear]
    decide
  have orderly : ∀ carried ∈ Combatant.guard.weapons, carried.hasSpecial .swarm = false := by
    intro carried spear
    rw [List.mem_singleton.mp spear]
    decide
  rcases resolve_agrees_with_play Observer.silent_leavesField {} paired (by decide) (by decide)
    ⟨by decide, by decide⟩ ⟨by decide, by decide⟩ (by decide) (by decide) (by decide)
    unslowingCounter orderly with
    ⟨matchup, report, final, outcome, rolls, matched, resolved, played, drawn, -, -, -, -, -,
      deaths, -⟩
  have fits : matchup.DrainsFit
      (Battlefield.skirmish.pair .raider .guard 0 .bloodSword).vitals := by
    intro role _
    cases role <;> decide
  rcases deaths fits with ⟨attackerDied, defenderDied⟩
  refine ⟨matchup, report, final, matched, resolved, drawn.trans (congrArg Prod.snd played).symm,
    ?_, ?_⟩
  · rw [show Simulation.play matchup ⟨34, 34⟩ ⟨42, 42⟩ _ = _ from played]
    exact attackerDied
  · rw [show Simulation.play matchup ⟨34, 34⟩ ⟨42, 42⟩ _ = _ from played]
    exact defenderDied

/-- The leech drinks until its hitpoints outgrow the word: its simulation leaves it without any, so
it has died there, but on the field it stands. -/
theorem leech_outlives_simulation :
    ∃ matchup report final,
      Battlefield.swamp.matchup ⟨0⟩ ⟨1⟩ 0 = .ok matchup ∧
        resolve .silent {} ⟨0⟩ ⟨1⟩ 0 [] ⟨.swamp, ScriptedDice.ofArray #[10], ()⟩ =
          (.ok report, final) ∧
        Combatant.leech.vitals.Sound ∧ Combatant.wader.vitals.Sound ∧
        (Simulation.play matchup Combatant.leech.vitals Combatant.wader.vitals
          (ScriptedDice.ofArray #[10])).1.attackerHitpoints = 0 ∧
        report.ending ≠ .attackerDied ∧ final.field.Spent ⟨0⟩ := by
  let start : Scene ScriptedDice Unit := ⟨.swamp, ScriptedDice.ofArray #[10], ()⟩
  let pairing := Battlefield.swamp.pair .leech .wader 0 .leechBite
  have paired : start.field.pairing ⟨0⟩ ⟨1⟩ 0 = .ok pairing :=
    Battlefield.pairing_eq_ok_iff.mpr ⟨.leech, .wader, .leechBite, rfl, rfl, rfl, rfl⟩
  have bounded : ∀ role, (pairing.vitals role).Bounded := by
    intro role
    cases role
    · exact ⟨by decide, by decide⟩
    · exact ⟨by decide, by decide⟩
  rcases resolve_concurs Observer.silent_leavesField {} paired (by decide) (by decide) bounded
    (by decide) (fun counter answers => by cases answers) (fun carried none => by cases none) with
    ⟨final, resolved, -, attackerName, -, concurs⟩
  let bout := Simulation.run (pairing.matchup start.field) pairing.attacker.vitals
    pairing.defender.vitals start.rolls
  have undecided : bout.decided = false := by decide +kernel
  have drained : (bout.fighter .attacker).hitpoints = 0 := by decide +kernel
  have stands : final.exchange.ending ≠ some .attackerDied := by
    intro died
    have decided : bout.decided = true := concurs.decided.mpr (Or.inr ⟨.attacker, died⟩)
    rw [undecided] at decided
    cases decided
  have spent := ((concurs.died .attacker).mp drained).resolve_left stands
  rw [Exchange.unitOf, attackerName] at spent
  refine ⟨pairing.matchup start.field, final.exchange.report, final.toScene,
    Battlefield.matchup_of_pairing paired, resolved, ⟨by decide, by decide⟩,
    ⟨by decide, by decide⟩, by decide +kernel, ?_, spent⟩
  exact fun died => stands ((Exchange.report_ending_iff (by decide)).mp died)

end Scene
end Hexfield
