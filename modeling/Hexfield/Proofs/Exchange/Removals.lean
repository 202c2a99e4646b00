import Hexfield.Proofs.Exchange.Transcript

namespace Hexfield

/-!
Exchanges under observers that remove units.

An observer may take any units off the field whenever it is told anything.  It is told of the attack
before the first swing and of all else after the last, so it either breaks an exchange off before it
has begun to be fought, or finds no way to disturb it.
-/

/-- Whatever it is told, the observer does no more to the field than to remove units from it. -/
def Observer.OnlyRemoves {σ : Type} (observer : Observer σ) : Prop :=
  ∀ event field memory, ∃ removed : List UnitId,
    (observer.notify event field memory).1 = removed.foldl Battlefield.erase field

theorem Observer.OnlyRemoves.logged {σ : Type} {observer : Observer σ}
    (removes : observer.OnlyRemoves) : observer.logged.OnlyRemoves :=
  fun event field memory => removes event field memory.1

/-- Removals take the units they name off the field, and leave all others as they are. -/
theorem Battlefield.get?_foldl_erase (removed : List UnitId) (field : Battlefield) (id : UnitId) :
    (removed.foldl Battlefield.erase field).roster.get? id =
      if id ∈ removed then none else field.roster.get? id := by
  induction removed generalizing field with
  | nil => rfl
  | cons first rest ih =>
      have once : (field.erase first).roster.get? id =
          if first = id then none else field.roster.get? id :=
        Roster.get?_erase _ _ _
      rw [List.foldl_cons, ih, once]
      by_cases later : id ∈ rest
      · rw [if_pos later, if_pos (List.mem_cons_of_mem first later)]
      · by_cases same : first = id
        · rw [if_neg later, if_pos same, if_pos (same ▸ List.mem_cons_self)]
        · rw [if_neg later, if_neg same, if_neg]
          simp [later, Ne.symm same]

/-- A unit that is left after a notification is as it was before. -/
theorem Observer.OnlyRemoves.get? {σ : Type} {observer : Observer σ}
    (removes : observer.OnlyRemoves) {event : Event} {field : Battlefield} {memory : σ}
    {id : UnitId} {unit : Combatant}
    (left : (observer.notify event field memory).1.roster.get? id = some unit) :
    field.roster.get? id = some unit := by
  rcases removes event field memory with ⟨removed, same⟩
  rw [same, Battlefield.get?_foldl_erase] at left
  split at left
  · cases left
  · exact left

/-- The announcement that ends an attack. -/
def Announcement.isEnd : Announcement → Bool
  | .attackEnd _ _ _ => true
  | _ => false

theorem Report.countP_chronicle (report : Report) (weapon : Nat) (grave : Hex) (risen : String)
    (master : Side) :
    (report.chronicle weapon grave risen master).countP (·.announcement.isEnd) = 1 := by
  have deaths : (report.deaths grave).countP Announcement.isEnd = 0 := by
    unfold Report.deaths
    cases report.ending <;> rfl
  have risings : (report.risings grave risen master).countP Announcement.isEnd = 0 := by
    unfold Report.risings
    cases report.spawned <;> rfl
  have closing : (report.closing grave risen master).countP (·.announcement.isEnd) = 1 := by
    rw [Report.closing, List.countP_map]
    change List.countP Announcement.isEnd _ = 1
    rw [List.countP_append, List.countP_append, deaths, risings]
    rfl
  rw [Report.chronicle, List.countP_cons, closing]
  rfl

namespace Scene

variable {ρ σ : Type} {observer : Observer σ} {scene : Scene ρ σ} {attacker defender : UnitId}
  {weapon : Nat} {found : Pairing}

/-- The field that the observer has left after it was told of the attack. -/
def afterAttack (observer : Observer σ) (attacker defender : UnitId) (weapon : Nat)
    (scene : Scene ρ σ) : Battlefield :=
  (observer.notify ⟨0, .attack attacker defender weapon⟩ (scene.field.rouse attacker defender)
    scene.memory).1

theorem field_announced (paired : scene.field.pairing attacker defender weapon = .ok found) :
    (scene.announced observer found attacker defender).field =
      scene.afterAttack observer attacker defender weapon := by
  cases Battlefield.weaponIndex_of_pairing paired
  rfl

/-- Of a unit that is left after the attack has been announced, nothing has changed but its rest. -/
theorem kept_of_announced (removes : observer.OnlyRemoves) {β : Type} (trait : Combatant → β)
    (restless : ∀ unit, trait unit.roused = trait unit) {id : UnitId} {unit : Combatant}
    (left : (scene.announced observer found attacker defender).field.roster.get? id = some unit) :
    (scene.field.roster.get? id).map trait = some (trait unit) := by
  have keeps := scene.field.keeps_rouse trait restless attacker defender
  rw [← keeps.units id]
  exact congrArg (Option.map trait) (removes.get? left)

/-- How an attack stands when it is over: it was broken off if the observer had removed a combatant
when the attack was announced, and then no swing was made and no one has gained any experience. -/
structure Withstands (scene : Scene ρ σ) (observer : Observer σ) (attacker defender : UnitId)
    (weapon : Nat) (final : Fight ρ (σ × Transcript)) (ending : Ending) : Prop where
  ended : final.exchange.ending = some ending
  announced : final.memory.2.events.countP (·.announcement.isEnd) = 1
  interrupted : ending = .interrupted ↔
    (scene.afterAttack observer attacker defender weapon).roster.get? attacker = none ∨
      (scene.afterAttack observer attacker defender weapon).roster.get? defender = none
  unfought : ending = .interrupted → final.exchange.swings = #[]
  unrewarded : ending = .interrupted → ∀ id unit, final.field.roster.get? id = some unit →
    (scene.field.roster.get? id).map Combatant.experience = some unit.experience

/-- An exchange that has lost a combatant before its first swing is broken off. -/
theorem withstands_of_absent (removes : observer.OnlyRemoves)
    (absent : (scene.afterAttack observer attacker defender weapon).roster.get? attacker = none ∨
      (scene.afterAttack observer attacker defender weapon).roster.get? defender = none) :
    scene.Withstands observer attacker defender weapon
      ((scene.logged.announced observer.logged found attacker defender).finish observer.logged
        .interrupted) .interrupted := by
  let start := scene.logged.announced observer.logged found attacker defender
  have going : start.exchange.ending = none := rfl
  refine ⟨?_, ?_, iff_of_true rfl absent, fun _ => ?_, fun _ id unit left => ?_⟩
  · rw [Fight.exchange_finish _ going]
  · rw [Fight.transcript_finish going]
    rfl
  · rw [Fight.exchange_finish _ going]
    rfl
  · rw [Fight.finish_of_going _ going] at left
    exact kept_of_announced removes.logged Combatant.experience (fun _ => rfl)
      (removes.logged.get? left)

variable [RollSource ρ]

/-- An exchange that has kept both combatants until its first swing is fought to its end. -/
theorem withstands_of_present (removes : observer.OnlyRemoves) (catalog : Catalog)
    (paired : scene.field.pairing attacker defender weapon = .ok found)
    {attackerUnit defenderUnit : Combatant}
    (attackerLeft : (scene.afterAttack observer attacker defender weapon).roster.get? attacker =
      some attackerUnit)
    (defenderLeft : (scene.afterAttack observer attacker defender weapon).roster.get? defender =
      some defenderUnit) (given : List SwingRecord) :
    ∃ (final : Fight ρ (σ × Transcript)) (ending : Ending),
      (scene.logged.announced observer.logged found attacker defender).run observer.logged catalog
        given = (.ok (), final) ∧
      scene.Withstands observer attacker defender weapon final ending := by
  let start := scene.logged.announced observer.logged found attacker defender
  have field : start.field = scene.afterAttack observer attacker defender weapon :=
    field_announced paired
  rw [← field] at attackerLeft defenderLeft
  have sameAttacker :=
    kept_of_announced removes.logged Combatant.armament (fun _ => rfl) attackerLeft
  have sameDefender :=
    kept_of_announced removes.logged Combatant.armament (fun _ => rfl) defenderLeft
  have ready : start.Ready := by
    apply Fight.ready_of_opening paired rfl
    · exact (congrArg (Option.map Combatant.armament) attackerLeft).trans sameAttacker.symm
    · exact (congrArg (Option.map Combatant.armament) defenderLeft).trans sameDefender.symm
  rcases ready.runFor_closes observer.logged catalog _ given rfl
    (Exchange.length_lt_of_upcoming rfl) with ⟨last, final, ran, quiet, lastReady, closes⟩
  rcases lastReady.answers with ⟨pairing, pairedLast, -⟩
  have attacked : last.memory.2 =
      { events := [⟨0, .attack last.exchange.attacker last.exchange.defender weapon⟩] } := by
    rw [quiet.memory, quiet.attacker, quiet.defender, ← Battlefield.weaponIndex_of_pairing paired]
    rfl
  rcases closes.chronicle lastReady quiet.spawned attacked pairedLast with
    ⟨ending, grave, risen, master, ended, uninterrupted, -, told, -⟩
  refine ⟨final, ending, ran, ended, ?_, ?_, ?_, ?_⟩
  · rw [told]
    exact Report.countP_chronicle _ _ _ _ _
  · rw [← field, attackerLeft, defenderLeft]
    simp [uninterrupted]
  · exact fun interrupted => absurd interrupted uninterrupted
  · exact fun interrupted => absurd interrupted uninterrupted

/-- An attack that was announced comes to its end, whomever the observer removes. -/
theorem exists_withstands (removes : observer.OnlyRemoves) (catalog : Catalog)
    (paired : scene.field.pairing attacker defender weapon = .ok found)
    (given : List SwingRecord) :
    ∃ (final : Fight ρ (σ × Transcript)) (ending : Ending),
      ((scene.logged.announced observer.logged found attacker defender).unlessRemoved
        observer.logged).run observer.logged catalog given = (.ok (), final) ∧
      scene.Withstands observer attacker defender weapon final ending := by
  let start := scene.logged.announced observer.logged found attacker defender
  have present : start.exchange.bothPresent start.field =
      (((scene.afterAttack observer attacker defender weapon).roster.get? attacker).isSome &&
        ((scene.afterAttack observer attacker defender weapon).roster.get? defender).isSome) := by
    rw [← field_announced paired]
    rfl
  have brokenOff (absent :
      (scene.afterAttack observer attacker defender weapon).roster.get? attacker = none ∨
        (scene.afterAttack observer attacker defender weapon).roster.get? defender = none) :
      ∃ (final : Fight ρ (σ × Transcript)) (ending : Ending),
        (start.finish observer.logged .interrupted).run observer.logged catalog given =
            (.ok (), final) ∧
          scene.Withstands observer attacker defender weapon final ending := by
    have withstands : scene.Withstands observer attacker defender weapon
        (start.finish observer.logged .interrupted) .interrupted :=
      withstands_of_absent removes absent
    exact ⟨_, _, Fight.runFor_of_ended withstands.ended _ given, withstands⟩
  rw [Fight.unlessRemoved, present]
  cases attackerLeft :
      (scene.afterAttack observer attacker defender weapon).roster.get? attacker with
  | none => exact brokenOff (.inl attackerLeft)
  | some attackerUnit =>
      cases defenderLeft :
          (scene.afterAttack observer attacker defender weapon).roster.get? defender with
      | none => exact brokenOff (.inr defenderLeft)
      | some defenderUnit =>
          exact withstands_of_present removes catalog paired attackerLeft defenderLeft given

/-- Under an observer that only removes units, an attack of a unit that is there on a unit that is
there, with a weapon that it has and that strikes, comes to its end; and so does the same attack
with a transcript, which tells how it has come to it. -/
theorem resolve_despite_removals (removes : observer.OnlyRemoves) (catalog : Catalog)
    (scene : Scene ρ σ) {attackerUnit defenderUnit : Combatant} {chosen : Weapon}
    (attackerAlive : scene.field.roster.get? attacker = some attackerUnit)
    (defenderAlive : scene.field.roster.get? defender = some defenderUnit)
    (inRange : attackerUnit.weapons[weapon]? = some chosen) (armed : 0 < chosen.strikes)
    (given : List SwingRecord) :
    ∃ (final : Fight ρ (σ × Transcript)) (ending : Ending),
      scene.resolve observer catalog attacker defender weapon given =
          (.ok final.exchange.report, final.toScene.forget) ∧
        scene.logged.resolve observer.logged catalog attacker defender weapon given =
          (.ok final.exchange.report, final.toScene) ∧
        scene.Withstands observer attacker defender weapon final ending := by
  have paired : scene.field.pairing attacker defender weapon = .ok _ :=
    Battlefield.pairing_eq_ok_iff.mpr
      ⟨attackerUnit, defenderUnit, chosen, attackerAlive, defenderAlive, inRange, rfl⟩
  rcases exists_withstands removes catalog paired given with ⟨final, ending, ran, withstands⟩
  have resolved : scene.logged.resolve observer.logged catalog attacker defender weapon given =
      (.ok final.exchange.report, final.toScene) :=
    resolve_of_run (begin_eq_of_pairing observer.logged paired (Nat.ne_of_gt armed)) ran
  refine ⟨final, ending, ?_, resolved, withstands⟩
  calc scene.resolve observer catalog attacker defender weapon given
      = Prod.map id forget (scene.logged.resolve observer.logged catalog attacker defender weapon
          given) := (forget_resolve attacker defender weapon given scene.logged).symm
    _ = (.ok final.exchange.report, final.toScene.forget) := by
        rw [resolved]
        rfl

end Scene

/-- An observer that takes whoever is attacked off the field. -/
def Observer.abductor : Observer Unit where
  notify := fun event field _ =>
    match event.announcement with
    | .attack _ defender _ => (field.erase defender, ())
    | _ => (field, ())
  invalidate := fun _ _ => ()

theorem Observer.abductor_onlyRemoves : abductor.OnlyRemoves := by
  rintro ⟨swing, announcement⟩ field memory
  cases announcement with
  | attack attacker defender weapon => exact ⟨[defender], rfl⟩
  | death victim killer hex => exact ⟨[], rfl⟩
  | contagionSpawn spawned unitType side hex => exact ⟨[], rfl⟩
  | attackEnd attacker defender ending => exact ⟨[], rfl⟩

/-- An attack on a unit that is abducted at once ends without a swing. -/
theorem Scene.resolve_despite_removals_abducted :
    ∃ final : Fight ScriptedDice (Unit × Transcript),
      Scene.resolve .abductor {} ⟨0⟩ ⟨1⟩ 0 [] ⟨.skirmish, ScriptedDice.ofArray #[10], ()⟩ =
          (.ok final.exchange.report, final.toScene.forget) ∧
        final.exchange.report.ending = .interrupted ∧ final.exchange.report.swings = [] := by
  rcases resolve_despite_removals Observer.abductor_onlyRemoves {}
    ⟨.skirmish, ScriptedDice.ofArray #[10], ()⟩
    (rfl : Battlefield.skirmish.roster.get? ⟨0⟩ = some .raider)
    (rfl : Battlefield.skirmish.roster.get? ⟨1⟩ = some .guard)
    (rfl : Combatant.raider.weapons[0]? = some .bloodSword) (by decide) [] with
    ⟨final, ending, resolved, -, withstands⟩
  cases withstands.interrupted.mpr (.inr rfl)
  refine ⟨final, resolved, ?_, ?_⟩
  · exact congrArg (·.getD .exhausted) withstands.ended
  · exact congrArg Array.toList (withstands.unfought rfl)

end Hexfield
