import Hexfield.Proofs.Plan.Growth

namespace Hexfield

/-!
What a plan says of itself is so where it sends its attackers.

A plan is assessed in a formation, which leaves behind whoever cannot move.  On a consistent roster
no one is left behind: all movements of a legal plan can be made in their order, and its formation
is the field on which they have been made.  So the weapons and the numbers of a plan that a search
returns are those that its attackers choose on that field, and its rating is the one that it is
given when the search is over.
-/

namespace Battlefield

/-- The field after some movements in their order, if every one of them can be made. -/
def deploy (field : Battlefield) (movements : List (UnitId × Hex)) : Except Fault Battlefield :=
  movements.foldlM (fun field movement => field.relocate movement.1 movement.2) field

variable {field placed : Battlefield}

theorem deploy_cons (field : Battlefield) (movement : UnitId × Hex) (others : List (UnitId × Hex)) :
    field.deploy (movement :: others) =
      field.relocate movement.1 movement.2 >>= fun moved => moved.deploy others :=
  List.foldlM_cons

theorem exists_relocate (consistent : field.roster.Consistent) {id : UnitId} {unit : Combatant}
    {target : Hex} (alive : field.roster.get? id = some unit)
    (free : ∀ other unit', field.roster.get? other = some unit' → unit'.hex = target → other = id) :
    ∃ roster, field.roster.relocate id target = .ok roster := by
  by_cases stays : unit.hex = target
  · exact ⟨field.roster, Roster.relocate_eq_ok_iff.mpr ⟨unit, alive, Or.inl ⟨stays, rfl⟩⟩⟩
  · have vacant : field.roster.idAt? target = none := by
      refine consistent.idAt?_eq_none_iff.mpr ?_
      intro other unit' alive' here
      have same := free other unit' alive' here
      subst same
      rw [alive] at alive'
      cases alive'
      exact stays here
    exact ⟨_, Roster.relocate_eq_ok_iff.mpr ⟨unit, alive, Or.inr ⟨stays, vacant, rfl⟩⟩⟩

/-- Movements of different units to different hexes can be made in their order, if on each of these
hexes there is no one else at first.  Then the units are where they were sent, and no other unit has
moved. -/
theorem exists_deploy (consistent : field.roster.Consistent) {movements : List (UnitId × Hex)}
    (units : (movements.map Prod.fst).Nodup) (hexes : (movements.map Prod.snd).Nodup)
    (alive : ∀ movement ∈ movements, ∃ unit, field.roster.get? movement.1 = some unit)
    (free : ∀ movement ∈ movements, ∀ other unit, field.roster.get? other = some unit →
      unit.hex = movement.2 → other = movement.1) :
    ∃ placed, field.deploy movements = .ok placed ∧
      (∀ movement ∈ movements, placed.roster.get? movement.1 =
        (field.roster.get? movement.1).map fun unit => { unit with hex := movement.2 }) ∧
      ∀ id, id ∉ movements.map Prod.fst → placed.roster.get? id = field.roster.get? id := by
  induction movements generalizing field with
  | nil =>
      refine ⟨field, rfl, ?_, fun _ _ => rfl⟩
      intro movement member
      cases member
  | cons movement others ih =>
      rcases List.nodup_cons.mp units with ⟨once, units⟩
      rcases List.nodup_cons.mp hexes with ⟨apart, hexes⟩
      rcases alive movement (List.mem_cons_self ..) with ⟨unit, alive'⟩
      rcases exists_relocate consistent alive' (free movement (List.mem_cons_self ..)) with
        ⟨roster, relocated⟩
      have moved := relocate_eq_ok_iff.mpr ⟨roster, relocated, rfl⟩
      have unmoved : ∀ id, movement.1 ≠ id → roster.get? id = field.roster.get? id := by
        intro id other
        rw [Roster.get?_relocate relocated, if_neg other]
      have another : ∀ other ∈ others, movement.1 ≠ other.1 :=
        fun other member same => once (same ▸ List.mem_map_of_mem member)
      have alive : ∀ other ∈ others, ∃ unit, roster.get? other.1 = some unit := by
        intro other member
        rw [unmoved _ (another other member)]
        exact alive other (List.mem_cons_of_mem _ member)
      have free : ∀ other ∈ others, ∀ id unit, roster.get? id = some unit →
          unit.hex = other.2 → id = other.1 := by
        intro other member id unit' found here
        by_cases mover : movement.1 = id
        · -- The unit that has just moved stands on a hex of its own.
          rw [Roster.get?_relocate relocated, if_pos mover, ← mover, alive'] at found
          cases found
          have here : movement.2 = other.2 := here
          exact absurd (List.mem_map_of_mem member) (here ▸ apart)
        · rw [unmoved id mover] at found
          exact free other (List.mem_cons_of_mem _ member) id unit' found here
      have consistent' : ({ field with roster } : Battlefield).roster.Consistent :=
        consistent.relocate relocated
      rcases ih consistent' units hexes alive free with ⟨placed, deployed, sent, still⟩
      refine ⟨placed, ?_, ?_, ?_⟩
      · rw [deploy_cons, moved]
        exact deployed
      · intro other member
        rcases List.mem_cons.mp member with rfl | member
        · rw [still _ once, Roster.get?_relocate relocated, if_pos rfl]
        · rw [sent other member, unmoved _ (another other member)]
      · intro id absent
        rw [List.map_cons, List.mem_cons, not_or] at absent
        rw [still id absent.2, unmoved id (Ne.symm absent.1)]

end Battlefield

namespace Formation

theorem field_advance {formation : Formation} {movement : UnitId × Hex} {moved : Battlefield}
    (relocated : formation.field.relocate movement.1 movement.2 = .ok moved) :
    (formation.advance movement).field = moved := by
  rcases Battlefield.relocate_eq_ok_iff.mp relocated with ⟨roster, relocated', rfl⟩
  rcases Roster.relocate_eq_ok_iff.mp relocated' with ⟨unit, alive, ⟨stays, rfl⟩ | ⟨moves, -, -⟩⟩
  · unfold advance
    simp only [alive, if_pos stays]
  · unfold advance
    simp only [alive, if_neg moves, relocated]

/-- A formation in which all can move leaves no one behind. -/
theorem field_form_of_deploy {field placed : Battlefield} {movements : List (UnitId × Hex)}
    (deployed : field.deploy movements = .ok placed) : (form field movements).field = placed := by
  have along : ∀ (movements : List (UnitId × Hex)) {formation : Formation},
      formation.field.deploy movements = .ok placed →
        (movements.foldl advance formation).field = placed := by
    intro movements
    induction movements with
    | nil =>
        rintro formation ⟨⟩
        rfl
    | cons movement others ih =>
        intro formation deployed
        rw [Battlefield.deploy_cons] at deployed
        cases relocated : formation.field.relocate movement.1 movement.2 with
        | error fault =>
            rw [relocated] at deployed
            cases deployed
        | ok moved =>
            rw [relocated] at deployed
            exact ih (by rw [field_advance relocated]; exact deployed)
  exact along movements deployed

end Formation

/-! ## The choices -/

/-- The results of a list are the answers to its values, one by one. -/
theorem map_getElem?_of_mapM_eq_ok {β γ : Type} {answer : β → Except Fault γ} {values : List β}
    {results : List γ} (answered : values.mapM answer = .ok results) (position : Nat) :
    values[position]?.map answer = results[position]?.map .ok := by
  induction values generalizing results position with
  | nil =>
      cases answered
      rfl
  | cons value values ih =>
      rw [List.mapM_cons] at answered
      cases first : answer value with
      | error fault =>
          rw [first] at answered
          cases answered
      | ok result =>
          rw [first] at answered
          cases rest : values.mapM answer with
          | error fault =>
              rw [rest] at answered
              cases answered
          | ok others =>
              rw [rest] at answered
              cases answered
              cases position with
              | zero => exact congrArg some first
              | succ position => exact ih rest position

theorem Battlefield.matchup_of_chooseWeapon {α : Type} [Scalar α] {field : Battlefield}
    {attacker target : UnitId} {aggression : α} {choice : Nat × Matchup}
    (chosen : field.chooseWeapon attacker target aggression = .ok (some choice)) :
    field.matchup attacker target choice.1 = .ok choice.2 := by
  unfold chooseWeapon at chosen
  cases found : field.unit attacker with
  | error fault =>
      rw [found] at chosen
      cases chosen
  | ok unit =>
      simp only [found, bind, Except.bind] at chosen
      split at chosen
      · cases chosen
      · rename_i candidates answered
        rcases Option.map_eq_some_iff.mp (Except.ok.inj chosen) with ⟨candidate, best, rfl⟩
        rcases List.mem_iff_getElem?.mp (Choice.mem_of_best?_eq_some best) with ⟨position, listed⟩
        have answers := map_getElem?_of_mapM_eq_ok answered position
        rw [listed] at answers
        rcases Option.map_eq_some_iff.mp answers with ⟨index, -, same⟩
        cases numbers : field.matchup attacker target index with
        | error fault =>
            rw [numbers] at same
            cases same
        | ok matchup =>
            rw [numbers] at same
            cases same
            exact numbers

namespace Plan

variable {α ρ : Type} {context : Context α ρ} {target : UnitId} {targetHex : Hex}
  {candidates : List UnitId} {plan : Plan α}

theorem Legal.exists_deploy (legal : plan.Legal context target targetHex candidates)
    (consistent : context.field.roster.Consistent) :
    ∃ placed, context.field.deploy plan.movements = .ok placed ∧
      ∀ movement ∈ plan.movements, ∃ unit, context.field.roster.get? movement.1 = some unit ∧
        placed.roster.get? movement.1 = some { unit with hex := movement.2 } := by
  have alive : ∀ movement ∈ plan.movements,
      ∃ unit, context.field.roster.get? movement.1 = some unit :=
    fun movement member => (legal.strikes movement member).imp fun _ strikes => strikes.alive
  have free : ∀ movement ∈ plan.movements, ∀ other unit,
      context.field.roster.get? other = some unit → unit.hex = movement.2 →
        other = movement.1 := by
    intro movement member
    rcases legal.strikes movement member with ⟨attacker, strikes⟩
    exact strikes.free consistent
  rcases Battlefield.exists_deploy consistent legal.attackers legal.hexes alive free with
    ⟨placed, deployed, sent, -⟩
  refine ⟨placed, deployed, ?_⟩
  intro movement member
  rcases alive movement member with ⟨unit, found⟩
  exact ⟨unit, found, by rw [sent movement member, found]; rfl⟩

/-- An attacker chooses its weapon where it is sent, and the numbers are those of an attack with
it. -/
theorem WellChosen.choice [Scalar α] (chosen : plan.WellChosen context)
    (armed : plan.Armed context.field) {placed : Battlefield}
    (deployed : context.field.deploy plan.movements = .ok placed)
    {position : Nat} {movement : UnitId × Hex} (there : plan.movements[position]? = some movement)
    {unit : Combatant} (alive : context.field.roster.get? movement.1 = some unit) :
    ∃ weapon matchup,
      placed.chooseWeapon movement.1 plan.target context.personality.aggression =
        .ok (some (weapon, matchup)) ∧
      plan.weapons[position]? = some (some weapon) ∧
      plan.matchups[position]? = some (some matchup) ∧
      placed.matchup movement.1 plan.target weapon = .ok matchup := by
  rcases chosen with ⟨choices, chosen, weapons, matchups⟩
  rw [Formation.field_form_of_deploy deployed] at chosen
  have answers := map_getElem?_of_mapM_eq_ok chosen position
  rw [Plan.attackers, List.getElem?_map, there] at answers
  rcases Option.map_eq_some_iff.mp answers.symm with ⟨choice, listed, answer⟩
  rcases armed.choices position movement.1 movement.2 unit there alive with ⟨known, -, weapon, -⟩
  rw [weapons, List.getElem?_map, listed] at weapon
  rcases choice with _ | ⟨index, matchup⟩
  · cases weapon
  · refine ⟨index, matchup, answer.symm, ?_, ?_, Battlefield.matchup_of_chooseWeapon answer.symm⟩
    · rw [weapons, List.getElem?_map, listed]
      rfl
    · rw [matchups, List.getElem?_map, listed]
      rfl

end Plan

namespace Search

variable {α ρ : Type} [Scalar α] [Scalar.Ordered α] [RollSource ρ]

/-- The plans that a search returns speak the truth.  Their movements can all be made in their
order; the weapons and the numbers are those that the attackers choose on the field on which they
have been made; and the ratings are the ones that the plans are given when the search is over. -/
theorem attacksOn_truthful {context after : Context α ρ} {target : UnitId}
    {candidates : List UnitId} {plans : List (Plan α)}
    (consistent : context.field.roster.Consistent) (distinct : candidates.Nodup)
    (alive : ∀ id ∈ candidates, ∃ unit, context.field.roster.get? id = some unit)
    (returned : attacksOn target candidates context = .ok plans after) :
    ∀ plan ∈ plans,
      plan.rate after.personality.aggression after = .ok plan.rating ∧
      ∃ placed, context.field.deploy plan.movements = .ok placed ∧
        (∀ movement ∈ plan.movements, ∃ unit, context.field.roster.get? movement.1 = some unit ∧
          placed.roster.get? movement.1 = some { unit with hex := movement.2 }) ∧
        plan.weapons.length = plan.movements.length ∧
        plan.matchups.length = plan.movements.length ∧
        ∀ (position : Nat) (movement : UnitId × Hex),
          plan.movements[position]? = some movement →
          ∃ weapon matchup,
            placed.chooseWeapon movement.1 target context.personality.aggression =
              .ok (some (weapon, matchup)) ∧
            plan.weapons[position]? = some (some weapon) ∧
            plan.matchups[position]? = some (some matchup) ∧
            placed.matchup movement.1 target weapon = .ok matchup := by
  intro plan member
  rcases worthy_of_attacksOn distinct alive returned with ⟨continues, targetHex, worthy⟩
  rcases worthy plan member with ⟨legal, -, truthful⟩
  have attackers : ∀ id ∈ plan.attackers, ∃ unit, context.field.roster.get? id = some unit :=
    fun id listed => alive id (legal.candidates id listed)
  constructor
  · rw [Plan.rate_proceeds continues attackers, continues.personality]
    exact truthful.rated
  · rcases legal.exists_deploy consistent with ⟨placed, deployed, sent⟩
    refine ⟨placed, deployed, sent, legal.armed.weapons, legal.armed.matchups, ?_⟩
    intro position movement there
    rcases sent movement (List.mem_of_getElem? there) with ⟨unit, alive', -⟩
    rw [← legal.sameTarget]
    exact (truthful.chosen consistent).choice legal.armed deployed there alive'

/-- The archer and the raider have a plan against the guard, and it speaks the truth: both move, and
the raider chooses its weapon where both are. -/
theorem attacksOn_truthful_raid :
    ∃ plans after plan, attacksOn ⟨1⟩ [⟨2⟩, ⟨0⟩] Context.raid = .ok plans after ∧ plan ∈ plans ∧
      plan.rate after.personality.aggression after = .ok plan.rating ∧
      ∃ placed, Battlefield.raid.deploy [(⟨2⟩, ⟨1, 1⟩), (⟨0⟩, ⟨0, 1⟩)] = .ok placed ∧
        placed.roster.get? ⟨2⟩ = some { Combatant.archer with hex := ⟨1, 1⟩ } ∧
        ∃ weapon matchup,
          placed.chooseWeapon ⟨0⟩ ⟨1⟩ Context.raid.personality.aggression =
            .ok (some (weapon, matchup)) ∧
          plan.weapons[1]? = some (some weapon) ∧ plan.matchups[1]? = some (some matchup) ∧
          placed.matchup ⟨0⟩ ⟨1⟩ weapon = .ok matchup := by
  rcases attacksOn_raid with ⟨plans, after, returned, found⟩
  have pair : [(⟨2⟩, ⟨1, 1⟩), (⟨0⟩, ⟨0, 1⟩)] ∈ plans.map Plan.movements :=
    found.mem_iff.mpr (by simp)
  rcases List.mem_map.mp pair with ⟨plan, member, movements⟩
  rcases attacksOn_truthful Battlefield.consistent_raid (by decide) Context.exists_unit_raid
    returned plan member with ⟨rated, placed, deployed, sent, -, -, choices⟩
  rw [movements] at deployed sent choices
  rcases sent (⟨2⟩, ⟨1, 1⟩) (by simp) with ⟨unit, alive, there⟩
  cases (show some Combatant.archer = some unit from alive)
  exact ⟨plans, after, plan, returned, member, rated, placed, deployed, there,
    choices 1 (⟨0⟩, ⟨0, 1⟩) rfl⟩

end Search
end Hexfield
