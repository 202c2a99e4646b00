import Hexfield.Proofs.Exchange.Steps

namespace Hexfield

/-!
The order of the swings of a whole exchange.

Between two swings an exchange is ready: it knows the rest of its schedule, and a defender that has
strikes has a weapon to strike with.  A step of a ready fight makes the first swing of the rest, and
either leaves a fight that is ready for what comes after or fells the target and ends the exchange.
By induction on the rest, a run makes the swings of the schedule in order, up to one that fells its
target.
-/

/-- An exchange with this ending has felled a unit: killed it, so that it is gone, or turned it to
stone. -/
def Ending.Fells (field : Battlefield) (target : UnitId) : Ending → Prop
  | attackerDied => field.roster.get? target = none
  | defenderDied => field.roster.get? target = none
  | petrified => ∃ unit, field.roster.get? target = some unit ∧ unit.status.petrified = true
  | exhausted => False
  | interrupted => False

namespace Fight

variable {ρ σ : Type} {observer : Observer σ} {catalog : Catalog} {fight : Fight ρ σ}

/-- A booked swing leaves a ready fight or fells its target. -/
theorem Swung.ready_or_fells {role : Role} {profile : StrikeProfile}
    {striker target : Combatant} {record : SwingRecord} {after : Fight ρ σ}
    (swung : Swung observer catalog role profile striker target record fight after)
    (leaves : observer.LeavesField) (going : fight.exchange.ending = none)
    (alive : fight.field.roster.get? (fight.exchange.opponentOf role) = some target) :
    (after.exchange = fight.exchange ∧ fight.field.Keeps Combatant.armament after.field) ∨
      ∃ ending, after.exchange.ending = some ending ∧
        ending.Fells after.field (fight.exchange.opponentOf role) := by
  cases swung with
  | missed => exact Or.inl ⟨rfl, .refl _ _⟩
  | endured hit survived harmless =>
      refine Or.inl ⟨rfl, keeps_struck _ (fun _ _ => rfl) (fun _ _ => rfl) (fun unit => ?_) _ _ _⟩
      simp [Combatant.armament, StrikeProfile.afflict, harmless]
  | petrified hit survived petrifies =>
      refine Or.inr ⟨.petrified, ?_, ?_⟩
      · rw [exchange_finish]
        exact going
      · have kept := keeps_deal (fun _ => ()) (fun _ _ => rfl) (fun _ _ => rfl) role profile
          (min record.damage target.hitpoints) fight
        rcases kept.get? alive with ⟨hurt, present, -⟩
        have stone : (fight.struck role profile (min record.damage target.hitpoints)).roster.get?
            (fight.exchange.opponentOf role) = some (profile.afflict hurt) := by
          simp only [struck, Battlefield.update, Roster.get?_update_self, present, Option.map_some]
        rcases (keeps_finish (fun unit => unit.status.petrified) leaves
          (fun _ _ => rfl) .petrified
          { fight with
            field := fight.struck role profile (min record.damage target.hitpoints)
            exchange := { fight.exchange with attackerSwings := 0, defenderSwings := 0 } }).get?
          stone with ⟨victim, found, same⟩
        refine ⟨victim, found, same.trans ?_⟩
        simp [StrikeProfile.afflict, petrifies]
  | killed hit lethal =>
      have placed : (fight.exchange.opponentOf role).val < (fight.deal role profile
          (min record.damage target.hitpoints)).field.roster.slots.size := by
        rw [size_slots_deal]
        exact Roster.lt_size_of_get? alive
      have gone : ((fight.deal role profile (min record.damage target.hitpoints)).resolveDeath
          observer catalog role striker target profile.contagion).field.roster.get?
            (fight.exchange.opponentOf role) = none := by
        have units := units_resolveDeath (fun _ => ()) leaves (fun _ _ => rfl) catalog role striker
          target profile.contagion _ placed
        rw [exchange_deal, if_pos rfl] at units
        exact Option.map_eq_none_iff.mp units
      refine Or.inr ⟨if fight.exchange.opponentOf role = fight.exchange.defender then
        .defenderDied else .attackerDied, ?_, ?_⟩
      · rw [exchange_resolveDeath]
        · rfl
        · exact going
      · split
        · exact gone
        · exact gone

/-- How the swings that a run has made stand to those that were due when it began: either it made
all of them and no one was felled, or it made the first few and the last of these felled its
target. -/
def KeptOrder (due : List Bool) (made : List AppliedSwing) (before after : Fight ρ σ) : Prop :=
  made.map (fun swing => swing.striker.mark) = due ∧
      after.exchange.ending = some .exhausted ∧
      before.field.Keeps Combatant.armament after.field ∨
    made.map (fun swing => swing.striker.mark) <+: due ∧
      ∃ earlier last ending, made = earlier ++ [last] ∧
        after.exchange.ending = some ending ∧
        ending.Fells after.field (before.exchange.opponentOf last.striker)

theorem KeptOrder.cons {mark : Bool} {rest : List Bool} {swing : AppliedSwing}
    {made : List AppliedSwing} {before middle after : Fight ρ σ}
    (kept : KeptOrder rest made middle after) (marked : swing.striker.mark = mark)
    (attacker : middle.exchange.attacker = before.exchange.attacker)
    (defender : middle.exchange.defender = before.exchange.defender)
    (keeps : before.field.Keeps Combatant.armament middle.field) :
    KeptOrder (mark :: rest) (swing :: made) before after := by
  rcases kept with ⟨all, ended, unfelled⟩ | ⟨few, earlier, last, ending, parts, ended, fells⟩
  · refine Or.inl ⟨?_, ended, keeps.trans unfelled⟩
    rw [List.map_cons, marked, all]
  · refine Or.inr ⟨?_, swing :: earlier, last, ending, ?_, ended, ?_⟩
    · rw [List.map_cons, marked]
      exact List.cons_prefix_cons.mpr ⟨rfl, few⟩
    · rw [parts, List.cons_append]
    · have same : middle.exchange.opponentOf last.striker =
          before.exchange.opponentOf last.striker := by
        cases last.striker with
        | attacker => exact defender
        | defender => exact attacker
      exact same ▸ fells

variable [RollSource ρ]

/-- After a swing that was due, the fight is ready for the rest or the target has been felled. -/
theorem Due.ready_or_fells {mark : Bool} {rest : List Bool} {role : Role} {exchange : Exchange}
    {pairing : Pairing} {profile : StrikeProfile} {record : SwingRecord}
    {given : Option SwingRecord} {after : Fight ρ σ}
    (due : fight.Due mark rest role exchange pairing) (leaves : observer.LeavesField)
    (going : fight.exchange.ending = none)
    (swung : Swung observer catalog role profile (pairing.unitOf role) (pairing.opponentOf role)
      record (fight.bookedDue role exchange pairing given) after) :
    (after.Ready ∧ after.exchange.upcoming = rest ∧
        fight.field.Keeps Combatant.armament after.field) ∨
      ∃ ending, after.exchange.ending = some ending ∧
        ending.Fells after.field (fight.exchange.opponentOf role) := by
  rcases due.bookedDue_same given with ⟨attacker, defender, -, unchanged⟩
  rcases swung.ready_or_fells leaves (unchanged.trans going) (due.bookedDue_target given) with
    ⟨same, keeps⟩ | ⟨ending, ended, fells⟩
  · rcases due.ready_of_keeps going same keeps with ⟨nextReady, nextUpcoming⟩
    exact Or.inl ⟨nextReady, nextUpcoming, keeps⟩
  · rw [Exchange.opponentOf_congr attacker defender] at fells
    exact Or.inr ⟨ending, ended, fells⟩

theorem runFor_of_ended {ending : Ending} (ended : fight.exchange.ending = some ending)
    (limit : Nat) (given : List SwingRecord) :
    fight.runFor observer catalog limit given = (.ok (), fight) := by
  cases limit with
  | zero => rfl
  | succ limit =>
      apply if_pos
      rw [Exchange.isFinished, ended]
      rfl

theorem runFor_of_step (going : fight.exchange.ending = none) {given : List SwingRecord}
    {record : SwingRecord} {after : Fight ρ σ}
    (stepped : fight.step observer catalog given.head? = (.ok (some record), after))
    (limit : Nat) :
    fight.runFor observer catalog (limit + 1) given =
      after.runFor observer catalog limit given.tail := by
  simp only [runFor, Exchange.isFinished, going, Option.isSome_none, Bool.false_eq_true,
    if_false, stepped]

/-- A run whose schedule is used up ends the exchange. -/
theorem Ready.runFor_of_usedUp (observer : Observer σ) (catalog : Catalog) (ready : fight.Ready)
    (usedUp : fight.exchange.upcoming = []) (limit : Nat) (given : List SwingRecord) :
    ∃ exchange, fight.exchange.TurnsTo exchange ∧
      fight.runFor observer catalog (limit + 1) given =
        (.ok (), finish observer .exhausted { fight with exchange }) := by
  rcases ready.step_of_usedUp observer catalog usedUp given.head? with
    ⟨exchange, turned, stepped⟩
  refine ⟨exchange, turned, ?_⟩
  simp only [runFor, Exchange.isFinished, ready.going, Option.isSome_none, Bool.false_eq_true,
    if_false, stepped]

/-- A step of a ready fight makes the swing that is due, and then the fight is ready for the rest or
the target has been felled. -/
theorem Ready.step_order (catalog : Catalog) (leaves : observer.LeavesField)
    (ready : fight.Ready) {mark : Bool} {rest : List Bool}
    (upcoming : fight.exchange.upcoming = mark :: rest)
    (given : Option SwingRecord) :
    ∃ swing after,
      fight.step observer catalog given = (.ok (some swing.record), after) ∧
        swing.striker.mark = mark ∧
        after.exchange.swings = fight.exchange.swings.push swing ∧
        after.exchange.attacker = fight.exchange.attacker ∧
        after.exchange.defender = fight.exchange.defender ∧
        (after.Ready ∧ after.exchange.upcoming = rest ∧
            fight.field.Keeps Combatant.armament after.field ∨
          ∃ ending, after.exchange.ending = some ending ∧
            ending.Fells after.field (fight.exchange.opponentOf swing.striker)) := by
  rcases ready.step_of_upcoming observer catalog upcoming given with
    ⟨role, exchange, pairing, after, due, stepped, swung⟩
  have books := due.bookedDue_exchange given
  have frame := swung.exchange_eq (by rw [books]; exact ready.going)
  rw [books] at frame
  refine ⟨{ striker := role, record := fight.dueRecord role pairing given }, after, stepped,
    due.marked, ?_, ?_, ?_, due.ready_or_fells leaves ready.going swung⟩
  · rw [frame]
  · rw [frame]
  · rw [frame]

/-- A run of a ready fight keeps to the schedule. -/
theorem Ready.runFor_order (catalog : Catalog) (leaves : observer.LeavesField) (due : List Bool) :
    ∀ {fight : Fight ρ σ} {limit : Nat} (given : List SwingRecord), fight.Ready →
      fight.exchange.upcoming = due → due.length < limit →
      ∃ after made, fight.runFor observer catalog limit given = (.ok (), after) ∧
        after.exchange.swings.toList = fight.exchange.swings.toList ++ made ∧
        after.exchange.attacker = fight.exchange.attacker ∧
        after.exchange.defender = fight.exchange.defender ∧
        KeptOrder due made fight after := by
  induction due with
  | nil =>
      intro fight limit given ready upcoming enough
      rcases Nat.exists_eq_succ_of_ne_zero (Nat.ne_of_gt enough) with ⟨limit, rfl⟩
      rcases ready.runFor_of_usedUp observer catalog upcoming limit given with
        ⟨exchange, turned, ran⟩
      have going : exchange.ending = none := by
        rw [turned]
        exact ready.going
      refine ⟨_, [], ran, ?_, ?_, ?_, Or.inl ⟨rfl, ?_, ?_⟩⟩
      · rw [exchange_finish _ (by exact going), turned]
        exact (List.append_nil _).symm
      · rw [exchange_finish _ (by exact going), turned]
      · rw [exchange_finish _ (by exact going), turned]
      · rw [exchange_finish _ (by exact going)]
      · exact keeps_finish Combatant.armament leaves (fun _ _ => rfl) .exhausted
          { fight with exchange }
  | cons mark rest ih =>
      intro fight limit given ready upcoming enough
      rcases ready.step_order catalog leaves upcoming given.head? with
        ⟨swing, after, stepped, marked, booked, attacker, defender, outcome⟩
      rcases Nat.exists_eq_succ_of_ne_zero (Nat.ne_of_gt (Nat.zero_lt_of_lt enough)) with
        ⟨limit, rfl⟩
      have ran := runFor_of_step ready.going stepped limit
      rcases outcome with ⟨nextReady, nextUpcoming, keeps⟩ | ⟨ending, ended, fells⟩
      · rcases ih given.tail nextReady nextUpcoming (Nat.lt_of_succ_lt_succ enough) with
          ⟨final, made, ranOn, swings, attacker', defender', kept⟩
        refine ⟨final, swing :: made, ran.trans ranOn, ?_, attacker'.trans attacker,
          defender'.trans defender, kept.cons marked attacker defender keeps⟩
        rw [swings, booked, Array.toList_push, List.append_assoc, List.singleton_append]
      · refine ⟨after, [swing], ran.trans (runFor_of_ended ended _ _), ?_, attacker, defender,
          Or.inr ⟨?_, [], swing, ending, rfl, ended, fells⟩⟩
        · rw [booked, Array.toList_push]
        · rw [List.map_singleton, marked]
          exact List.prefix_append [mark] rest

end Fight

/-- Who made the swings of a report, in order, as a schedule marks them. -/
def Report.strikers (report : Report) : List Bool :=
  report.swings.map fun swing => swing.striker.mark

/-- The unit at which a swing was made. -/
def Report.targetOf (report : Report) (swing : AppliedSwing) : UnitId :=
  match swing.striker with
  | .attacker => report.defender
  | .defender => report.attacker

namespace Scene

variable {ρ σ : Type} {observer : Observer σ} {scene : Scene ρ σ}
  {attacker defender : UnitId} {weapon : Nat}

/-- An exchange that has begun is ready for its first swing, with the whole schedule of its matchup
before it. -/
theorem ready_of_begin (leaves : observer.LeavesField) {fight : Fight ρ σ}
    (begun : scene.begin observer attacker defender weapon = .ok fight) :
    ∃ matchup, scene.field.matchup attacker defender weapon = .ok matchup ∧
      fight.Ready ∧ fight.exchange.upcoming = matchup.schedule ∧
      fight.exchange.attacker = attacker ∧ fight.exchange.defender = defender ∧
      fight.exchange.swings = #[] ∧
      scene.field.Keeps Combatant.armament fight.field := by
  rcases opened_of_begin leaves begun with ⟨pairing, paired, -, field, -, opened⟩
  have keeps : scene.field.Keeps Combatant.armament fight.field := by
    rw [field]
    exact Battlefield.keeps_rouse Combatant.armament (fun _ => rfl) scene.field attacker defender
  have ready : fight.Ready :=
    Fight.ready_of_opening paired opened (keeps.units attacker) (keeps.units defender)
  refine ⟨pairing.matchup scene.field, ?_, ready, ?_, ?_, ?_, ?_, keeps⟩
  · exact Battlefield.matchup_of_pairing paired
  · rw [opened]
    exact pairing.upcoming_opening _ _ _
  · rw [opened]
    rfl
  · rw [opened]
    rfl
  · rw [opened]
    rfl

theorem resolve_of_run [RollSource ρ] {catalog : Catalog} {given : List SwingRecord}
    {fight final : Fight ρ σ}
    (begun : scene.begin observer attacker defender weapon = .ok fight)
    (ran : fight.run observer catalog given = (.ok (), final)) :
    scene.resolve observer catalog attacker defender weapon given =
      (.ok final.exchange.report, final.toScene) := by
  rw [resolve, begun]
  simp only [ran]
  rfl

/-- Every exchange that begins comes to an end, and its swings are made in the order of the schedule
of its matchup.  Either all of them are made, and no unit on the field has died or turned to stone;
or the last one that was made has felled its target. -/
theorem resolve_keeps_schedule [RollSource ρ] (leaves : observer.LeavesField) (catalog : Catalog)
    (given : List SwingRecord) {fight : Fight ρ σ}
    (begun : scene.begin observer attacker defender weapon = .ok fight) :
    ∃ matchup report final,
      scene.field.matchup attacker defender weapon = .ok matchup ∧
        fight.run observer catalog given = (.ok (), final) ∧
        final.exchange.isFinished = true ∧
        scene.resolve observer catalog attacker defender weapon given =
          (.ok report, final.toScene) ∧
        report.attacker = attacker ∧ report.defender = defender ∧
        report.strikers <+: matchup.schedule ∧
        report.swings.length ≤
          max matchup.rounds 1 * (matchup.attacker.strikes + matchup.defender.strikes) ∧
        (report.strikers = matchup.schedule ∧ report.ending = .exhausted ∧
            scene.field.Keeps Combatant.armament final.field ∨
          ∃ last, report.swings.getLast? = some last ∧
            report.ending.Fells final.field (report.targetOf last)) := by
  rcases ready_of_begin leaves begun with
    ⟨matchup, matched, ready, upcoming, attackerName, defenderName, unswung, keeps⟩
  have enough := Exchange.length_lt_of_upcoming upcoming
  rcases ready.runFor_order catalog leaves matchup.schedule given upcoming enough with
    ⟨final, made, ran, swings, attackerSame, defenderSame, kept⟩
  have swingsMade : final.exchange.report.swings = made := by
    rw [Exchange.report, swings, unswung]
    rfl
  have resolved := resolve_of_run begun ran
  have ordered : final.exchange.report.strikers <+: matchup.schedule := by
    rw [Report.strikers, swingsMade]
    rcases kept with ⟨all, -, -⟩ | ⟨few, -⟩
    · exact all ▸ List.prefix_refl _
    · exact few
  refine ⟨matchup, final.exchange.report, final, matched, ran, ?_, resolved,
    attackerSame.trans attackerName, defenderSame.trans defenderName, ordered, ?_, ?_⟩
  · rcases kept with ⟨-, ended, -⟩ | ⟨-, -, -, ending, -, ended, -⟩
    · rw [Exchange.isFinished, ended]
      rfl
    · rw [Exchange.isFinished, ended]
      rfl
  · have bound := ordered.length_le
    rw [Report.strikers, List.length_map, matchup.length_schedule] at bound
    exact bound
  · rcases kept with ⟨all, ended, unfelled⟩ | ⟨-, earlier, last, ending, parts, ended, fells⟩
    · refine Or.inl ⟨?_, ?_, keeps.trans unfelled⟩
      · rw [Report.strikers, swingsMade, all]
      · rw [Exchange.report, ended]
        rfl
    · refine Or.inr ⟨last, ?_, ?_⟩
      · rw [swingsMade, parts, List.getLast?_concat]
      · have target : final.exchange.report.targetOf last =
            fight.exchange.opponentOf last.striker := by
          cases striker : last.striker with
          | attacker => simp [Report.targetOf, striker, Exchange.opponentOf, Exchange.report,
              defenderSame]
          | defender => simp [Report.targetOf, striker, Exchange.opponentOf, Exchange.report,
              attackerSame]
        have endingName : final.exchange.report.ending = ending := by
          rw [Exchange.report, ended]
          rfl
        rw [target, endingName]
        exact fells

/-- The raider's attack on the guard keeps to its schedule. -/
theorem resolve_keeps_schedule_skirmish :
    ∃ matchup report after,
      Battlefield.skirmish.matchup ⟨0⟩ ⟨1⟩ 0 = .ok matchup ∧
        resolve .recorder {} ⟨0⟩ ⟨1⟩ 0 []
          ⟨.skirmish, ScriptedDice.ofArray #[10, 60, 35], {}⟩ = (.ok report, after) ∧
        report.strikers <+: matchup.schedule := by
  rcases begin_skirmish Observer.recorder_leavesField (ScriptedDice.ofArray #[10, 60, 35]) {} with
    ⟨fight, begun⟩
  rcases resolve_keeps_schedule Observer.recorder_leavesField {} [] begun with
    ⟨matchup, report, final, matched, -, -, resolved, -, -, ordered, -⟩
  exact ⟨matchup, report, final.toScene, matched, resolved, ordered⟩

end Scene
end Hexfield
