import Hexfield.Plan.Search
import Hexfield.Proofs.Matchup.Pairing
import Hexfield.Proofs.Plan.Formation
import Hexfield.Proofs.Plan.Planner

namespace Hexfield

/-!
A plan whose attackers are on the field can be assessed.

The assessment succeeds, finds a weapon for each attacker, and changes neither the target nor the
movements.  It may draw rolls and look up cover; of the field it changes nothing on a consistent
roster, and on any other at most where units stand.  So after one assessment the next one finds what
this one found, and any number of them can follow each other.  For the same reason what a plan says
of its weapons and of its rating stays so.
-/

/-! ## A weapon for everyone -/

/-- A weapon of the unit that has a strike, by its index, and the numbers of an attack with it. -/
def Combatant.Arms (unit : Combatant) (choice : Nat × Matchup) : Prop :=
  (∃ weapon, unit.weapons[choice.1]? = some weapon ∧ 0 < weapon.strikes) ∧
    choice.2.attacker.weapon = some choice.1

/-- If each value has an answer that fits, then all of them have, in the same order. -/
theorem exists_mapM_eq_ok {β γ : Type} {answer : β → Except Fault γ} {fits : β → γ → Prop}
    {values : List β}
    (each : ∀ value ∈ values, ∃ result, answer value = .ok result ∧ fits value result) :
    ∃ results : List γ, values.mapM answer = .ok results ∧ results.length = values.length ∧
      ∀ (position : Nat) (value : β) (result : γ), values[position]? = some value →
        results[position]? = some result → fits value result := by
  induction values with
  | nil => exact ⟨[], rfl, rfl, by simp⟩
  | cons value values ih =>
      rcases each value (List.mem_cons_self ..) with ⟨result, answered, fit⟩
      rcases ih fun other member => each other (List.mem_cons_of_mem _ member) with
        ⟨results, answered', length, fit'⟩
      refine ⟨result :: results, ?_, by simp [length], ?_⟩
      · rw [List.mapM_cons, answered, answered']
        rfl
      · intro position other found there there'
        cases position with
        | zero =>
            cases there
            cases there'
            exact fit
        | succ position => exact fit' position other found there there'

namespace Battlefield

variable {α : Type} [Scalar α] {field : Battlefield}

theorem mem_strikingWeapons_iff {unit : Combatant} {index : Nat} :
    index ∈ strikingWeapons unit ↔
      ∃ weapon, unit.weapons[index]? = some weapon ∧ 0 < weapon.strikes := by
  simp only [strikingWeapons, List.mem_map, List.mem_filter, List.mem_zipIdx_iff_getElem?]
  constructor
  · rintro ⟨⟨weapon, position⟩, ⟨found, strikes⟩, rfl⟩
    exact ⟨weapon, found, Nat.pos_of_ne_zero (of_decide_eq_true strikes)⟩
  · rintro ⟨weapon, found, strikes⟩
    exact ⟨(weapon, index), ⟨found, decide_eq_true (Nat.ne_of_gt strikes)⟩, rfl⟩

theorem strikingWeapons_eq_nil_iff {unit : Combatant} :
    strikingWeapons unit = [] ↔ ∀ weapon ∈ unit.weapons, weapon.strikes = 0 := by
  rw [List.eq_nil_iff_forall_not_mem]
  constructor
  · intro nothing weapon member
    rcases List.getElem?_of_mem member with ⟨index, found⟩
    exact Nat.eq_zero_of_not_pos fun strikes =>
      nothing index (mem_strikingWeapons_iff.mpr ⟨weapon, found, strikes⟩)
  · intro strikeless index striking
    rcases mem_strikingWeapons_iff.mp striking with ⟨weapon, found, strikes⟩
    exact Nat.ne_of_gt strikes (strikeless weapon (List.mem_of_getElem? found))

theorem strikingWeapons_ne_nil {unit : Combatant} (initiates : unit.canInitiate = true) :
    strikingWeapons unit ≠ [] := by
  rcases List.any_eq_true.mp initiates with ⟨weapon, member, strikes⟩
  intro nothing
  exact Nat.ne_of_gt (of_decide_eq_true strikes)
    (strikingWeapons_eq_nil_iff.mp nothing weapon member)

theorem exists_matchup {attacker defender : UnitId} {unit unit' : Combatant} {index : Nat}
    {weapon : Weapon} (alive : field.roster.get? attacker = some unit)
    (alive' : field.roster.get? defender = some unit')
    (found : unit.weapons[index]? = some weapon) :
    ∃ matchup, field.matchup attacker defender index = .ok matchup ∧
      matchup.attacker.weapon = some index := by
  have paired := pairing_eq_ok_iff.mpr ⟨unit, unit', weapon, alive, alive', found, rfl⟩
  exact ⟨_, matchup_of_pairing paired, rfl⟩

/-- The candidates among whom an attacker chooses: its striking weapons in their order, with the
numbers of the attacks and what these are worth. -/
theorem exists_candidates {attacker target : UnitId} {unit unit' : Combatant}
    (alive : field.roster.get? attacker = some unit)
    (alive' : field.roster.get? target = some unit') (aggression : α) :
    ∃ candidates : List ((Nat × Matchup) × α),
      field.chooseWeapon attacker target aggression =
        .ok ((Choice.best? candidates).map Prod.fst) ∧
      candidates.map (fun candidate => candidate.1.1) = strikingWeapons unit ∧
      ∀ candidate ∈ candidates, field.matchup attacker target candidate.1.1 = .ok candidate.1.2 ∧
        candidate.2 = candidate.1.2.worth aggression := by
  have rated : ∀ index ∈ strikingWeapons unit, ∃ candidate : (Nat × Matchup) × α,
      (do
        let matchup ← field.matchup attacker target index
        pure ((index, matchup), matchup.worth aggression) : Except Fault _) = .ok candidate ∧
        candidate.1.1 = index ∧ field.matchup attacker target index = .ok candidate.1.2 ∧
        candidate.2 = candidate.1.2.worth aggression := by
    intro index member
    rcases mem_strikingWeapons_iff.mp member with ⟨weapon, found, -⟩
    rcases exists_matchup alive alive' found with ⟨matchup, numbers, -⟩
    refine ⟨((index, matchup), matchup.worth aggression), ?_, rfl, numbers, rfl⟩
    rw [numbers]
    rfl
  rcases exists_mapM_eq_ok rated with ⟨candidates, answered, length, fits⟩
  refine ⟨candidates, ?_, ?_, ?_⟩
  · unfold chooseWeapon
    rw [unit_eq_ok_iff.mpr alive]
    simp only [bind, Except.bind] at answered ⊢
    rw [answered]
    rfl
  · apply List.ext_getElem (by rw [List.length_map, length])
    intro position within within'
    rw [List.getElem_map]
    exact (fits position _ _ (List.getElem?_eq_getElem within')
      (List.getElem?_eq_getElem (by rwa [List.length_map] at within))).1
  · intro candidate member
    rcases List.getElem?_of_mem member with ⟨position, found⟩
    have within : position < (strikingWeapons unit).length := by
      rw [← length]
      exact (List.getElem?_eq_some_iff.mp found).1
    rcases fits position _ candidate (List.getElem?_eq_getElem within) found with
      ⟨same, numbers, worth⟩
    rw [← same] at numbers
    exact ⟨numbers, worth⟩

/-- A live unit looks for a weapon against a live target without a failure, and finds one if it can
initiate an attack. -/
theorem exists_chooseWeapon {attacker target : UnitId} {unit unit' : Combatant}
    (alive : field.roster.get? attacker = some unit)
    (alive' : field.roster.get? target = some unit') (aggression : α) :
    ∃ choice, field.chooseWeapon attacker target aggression = .ok choice ∧
      (unit.canInitiate = true → ∃ chosen, choice = some chosen ∧ unit.Arms chosen) := by
  rcases exists_candidates alive alive' aggression with ⟨candidates, answer, indices, numbered⟩
  refine ⟨_, answer, ?_⟩
  intro initiates
  cases best : Choice.best? candidates with
  | none =>
      rw [(Choice.best?_eq_none_iff candidates).mp best] at indices
      exact absurd indices.symm (strikingWeapons_ne_nil initiates)
  | some chosen =>
      have member := Choice.mem_of_best?_eq_some best
      have striking : chosen.1.1 ∈ strikingWeapons unit := by
        rw [← indices]
        exact List.mem_map_of_mem member
      rcases mem_strikingWeapons_iff.mp striking with ⟨weapon, found, strikes⟩
      rcases exists_matchup alive alive' found with ⟨matchup, numbers, weaponOf⟩
      rw [(numbered chosen member).1] at numbers
      cases numbers
      exact ⟨chosen.1, rfl, ⟨weapon, found, strikes⟩, weaponOf⟩

end Battlefield

/-! ## The field between assessments -/

variable {α ρ : Type}

/-- Planning has gone on for a while: rolls were drawn and cover was looked up.  On a consistent
roster nothing else is different, and on any other the units are still the same, on hexes where they
stood at first or are allowed to stand. -/
structure Context.Proceeds (allowed : UnitId → Hex → Prop) (first now : Context α ρ) : Prop where
  frame : now = { first with field := now.field, rolls := now.rolls, covers := now.covers }
  strays : first.field.Strays allowed now.field
  undisturbed : first.field.roster.Consistent → now.field = first.field

/-- Planning has gone on, and no unit stands where it neither stood at first nor reaches. -/
abbrev Context.Continues (first now : Context α ρ) : Prop :=
  first.Proceeds (fun id hex => first.ownMoves.reaches id hex = true) now

namespace Context.Proceeds

variable {allowed : UnitId → Hex → Prop} {first now : Context α ρ}

theorem refl (allowed : UnitId → Hex → Prop) (context : Context α ρ) :
    context.Proceeds allowed context :=
  ⟨rfl, Battlefield.Strays.refl _ _, fun _ => rfl⟩

theorem withCovers (proceeds : first.Proceeds allowed now)
    (covers : Std.ExtTreeMap UnitId (Cover α)) : first.Proceeds allowed { now with covers } := by
  refine ⟨?_, proceeds.strays, proceeds.undisturbed⟩
  have frame := proceeds.frame
  rw [frame]

theorem withRolls (proceeds : first.Proceeds allowed now) (rolls : ρ) :
    first.Proceeds allowed { now with rolls } := by
  refine ⟨?_, proceeds.strays, proceeds.undisturbed⟩
  have frame := proceeds.frame
  rw [frame]

theorem personality (proceeds : first.Proceeds allowed now) :
    now.personality = first.personality :=
  congrArg (fun context => context.personality) proceeds.frame

theorem side (proceeds : first.Proceeds allowed now) : now.side = first.side :=
  congrArg (fun context => context.side) proceeds.frame

theorem ownMoves (proceeds : first.Proceeds allowed now) : now.ownMoves = first.ownMoves :=
  congrArg (fun context => context.ownMoves) proceeds.frame

theorem teams (proceeds : first.Proceeds allowed now) : now.field.teams = first.field.teams := by
  rw [proceeds.strays.frame]

theorem get? (proceeds : first.Proceeds allowed now) {id : UnitId} {unit : Combatant}
    (alive : first.field.roster.get? id = some unit) :
    ∃ hex, now.field.roster.get? id = some { unit with hex } :=
  (proceeds.strays.units alive).imp fun _ there => there.1

/-- Attackers that take their formation and leave it again let planning go on. -/
theorem withFormation (proceeds : first.Proceeds allowed now) {movements : List (UnitId × Hex)}
    (may : ∀ movement ∈ movements, first.field.MayStand allowed movement) :
    first.Proceeds allowed { now with field := (Formation.form now.field movements).disband } := by
  refine ⟨?_, (Formation.strays_form proceeds.strays may).disband, ?_⟩
  · have frame := proceeds.frame
    rw [frame]
  · intro consistent
    rw [proceeds.undisturbed consistent]
    exact Formation.disband_form consistent movements

end Context.Proceeds

theorem Context.Continues.refl (context : Context α ρ) : context.Continues context :=
  Context.Proceeds.refl _ context

/-! ## Assessing a plan -/

namespace Plan

/-- The target and the movements of a plan, which are all that is said when a plan is drawn up. -/
def outline (plan : Plan α) : UnitId × Hex × List (UnitId × Hex) :=
  (plan.target, plan.targetHex, plan.movements)

structure Present (context : Context α ρ) (plan : Plan α) : Prop where
  target : ∃ unit, context.field.roster.get? plan.target = some unit
  attackers : ∀ id ∈ plan.attackers, ∃ unit, context.field.roster.get? id = some unit

/-- The target and the attackers of a plan are on the field, and each attacker can strike from its
hex when it gets there. -/
structure Attended (context : Context α ρ) (plan : Plan α) : Prop where
  target : ∃ unit, context.field.roster.get? plan.target = some unit
  attackers : ∀ movement ∈ plan.movements, ∃ unit,
    context.field.roster.get? movement.1 = some unit ∧ unit.canInitiate = true
  may : ∀ movement ∈ plan.movements,
    context.field.MayStand (fun id hex => context.ownMoves.reaches id hex = true) movement

/-- Each attacker of a plan has a weapon with a strike, and the plan has the numbers of the attack
with it. -/
structure Armed (field : Battlefield) (plan : Plan α) : Prop where
  weapons : plan.weapons.length = plan.movements.length
  matchups : plan.matchups.length = plan.movements.length
  choices : ∀ (position : Nat) (id : UnitId) (hex : Hex) (unit : Combatant),
    plan.movements[position]? = some (id, hex) → field.roster.get? id = some unit →
    ∃ choice : Nat × Matchup, unit.Arms choice ∧
      plan.weapons[position]? = some (some choice.1) ∧
      plan.matchups[position]? = some (some choice.2)

theorem Attended.present {context : Context α ρ} {plan : Plan α}
    (attended : plan.Attended context) : plan.Present context := by
  refine ⟨attended.target, ?_⟩
  intro id member
  rcases List.mem_map.mp member with ⟨movement, listed, rfl⟩
  exact (attended.attackers movement listed).imp fun _ found => found.1

theorem Present.of_outline {context : Context α ρ} {plan plan' : Plan α}
    (present : plan.Present context) (same : plan'.outline = plan.outline) :
    plan'.Present context := by
  rcases Prod.mk.inj same with ⟨target, rest⟩
  have attackers : plan'.attackers = plan.attackers :=
    congrArg (List.map Prod.fst) (Prod.mk.inj rest).2
  exact ⟨by rw [target]; exact present.target, by rw [attackers]; exact present.attackers⟩

theorem Attended.of_outline {context : Context α ρ} {plan plan' : Plan α}
    (attended : plan.Attended context) (same : plan'.outline = plan.outline) :
    plan'.Attended context := by
  rcases Prod.mk.inj same with ⟨target, rest⟩
  have movements := (Prod.mk.inj rest).2
  exact ⟨by rw [target]; exact attended.target, by rw [movements]; exact attended.attackers,
    by rw [movements]; exact attended.may⟩

/-- Choices for all attackers arm a plan. -/
theorem armed_of_choices {field : Battlefield} {plan : Plan α}
    {choices : List (Option (Nat × Matchup))}
    (weapons : plan.weapons = choices.map (Option.map Prod.fst))
    (matchups : plan.matchups = choices.map (Option.map Prod.snd))
    (length : choices.length = plan.movements.length)
    (arms : ∀ (position : Nat) (id : UnitId) (hex : Hex) (unit : Combatant),
      plan.movements[position]? = some (id, hex) → field.roster.get? id = some unit →
      ∃ choice, choices[position]? = some (some choice) ∧ unit.Arms choice) :
    plan.Armed field := by
  refine ⟨by rw [weapons, List.length_map, length], by rw [matchups, List.length_map, length], ?_⟩
  intro position id hex unit there alive
  rcases arms position id hex unit there alive with ⟨choice, found, arms⟩
  exact ⟨choice, arms, by simp [weapons, found], by simp [matchups, found]⟩

variable {allowed : UnitId → Hex → Prop} {first now : Context α ρ}

theorem ensures_inFormation {β : Type} (proceeds : first.Proceeds allowed now)
    {movements : List (UnitId × Hex)} {read : Battlefield → Except Fault β} {answer : β}
    (may : ∀ movement ∈ movements,
      first.field.MayStand allowed movement)
    (answered : read (Formation.form now.field movements).field = .ok answer) :
    (inFormation movements read : Planner α ρ β).Ensures now
      fun result now => first.Proceeds allowed now ∧ result = answer := by
  apply Planner.Ensures.get_bind
  apply Planner.Ensures.set_bind
  rw [answered]
  exact Planner.Ensures.pure ⟨proceeds.withFormation may, rfl⟩

/-- Whether a leader could recruit is known if all attackers are alive. -/
theorem exists_leaderCouldRecruit {plan : Plan α} (proceeds : first.Proceeds allowed now)
    (alive : ∀ id ∈ plan.attackers, ∃ unit, first.field.roster.get? id = some unit) :
    ∃ answer, plan.leaderCouldRecruit now = .ok answer := by
  have searched : ∀ (keeps : List Hex) (attackers : List UnitId),
      (∀ id ∈ attackers, ∃ unit, first.field.roster.get? id = some unit) →
        ∃ answer, leaderCouldRecruit.search now keeps attackers = .ok answer := by
    intro keeps attackers
    induction attackers with
    | nil => exact fun _ => ⟨false, rfl⟩
    | cons id others ih =>
        intro alive
        rcases alive id (List.mem_cons_self ..) with ⟨unit, found⟩
        rcases proceeds.get? found with ⟨hex, there⟩
        rw [leaderCouldRecruit.search, Battlefield.unit_eq_ok_iff.mpr there]
        simp only [bind, Except.bind]
        split
        · exact ⟨true, rfl⟩
        · exact ih fun other member => alive other (List.mem_cons_of_mem _ member)
  unfold leaderCouldRecruit
  split
  · exact ⟨false, rfl⟩
  · exact searched _ _ alive

theorem leaderCouldRecruit_proceeds {plan : Plan α} (proceeds : first.Proceeds allowed now)
    (alive : ∀ id ∈ plan.attackers, ∃ unit, first.field.roster.get? id = some unit) :
    plan.leaderCouldRecruit now = plan.leaderCouldRecruit first := by
  have board : now.field.board = first.field.board := by rw [proceeds.strays.frame]
  have searched : ∀ (keeps : List Hex) (attackers : List UnitId),
      (∀ id ∈ attackers, ∃ unit, first.field.roster.get? id = some unit) →
        leaderCouldRecruit.search now keeps attackers =
          leaderCouldRecruit.search first keeps attackers := by
    intro keeps attackers
    induction attackers with
    | nil => exact fun _ => rfl
    | cons id others ih =>
        intro alive
        rcases alive id (List.mem_cons_self ..) with ⟨unit, found⟩
        rcases proceeds.get? found with ⟨hex, there⟩
        rw [leaderCouldRecruit.search, leaderCouldRecruit.search,
          Battlefield.unit_eq_ok_iff.mpr there, Battlefield.unit_eq_ok_iff.mpr found,
          proceeds.ownMoves]
        simp only [bind, Except.bind]
        rw [ih fun other member => alive other (List.mem_cons_of_mem _ member)]
  unfold leaderCouldRecruit
  rw [proceeds.side, proceeds.teams, board, searched _ _ alive]

variable [Scalar α]

@[simp] theorem outline_appraise (plan : Plan α) (field : Battlefield) (side : Side)
    (target : Combatant) : (plan.appraise field side target).outline = plan.outline :=
  rfl

@[simp] theorem outline_enlist (plan : Plan α) (field : Battlefield) (unit : Combatant) (hex : Hex)
    (cover : Cover α) : (plan.enlist field unit hex cover).outline = plan.outline :=
  rfl

@[simp] theorem outline_averageTerrain (plan : Plan α) :
    plan.averageTerrain.outline = plan.outline := by
  unfold averageTerrain
  split
  · rfl
  · rfl

@[simp] theorem outline_withTally (plan : Plan α) (trials : Nat) (tally : Tally α) :
    (plan.withTally trials tally).outline = plan.outline := by
  unfold withTally
  split
  · rfl
  · rfl

/-- The weapons of a plan and its numbers are what its attackers choose where they are sent. -/
def WellChosen (context : Context α ρ) (plan : Plan α) : Prop :=
  ∃ choices, plan.chooseWeapons context.personality.aggression
      (Formation.form context.field plan.movements).field = .ok choices ∧
    plan.weapons = choices.map (Option.map Prod.fst) ∧
    plan.matchups = choices.map (Option.map Prod.snd)

theorem wellChosen_of_choices {context : Context α ρ} {plan : Plan α}
    {choices : List (Option (Nat × Matchup))}
    (chosen : plan.chooseWeapons context.personality.aggression
      (Formation.form context.field plan.movements).field = .ok choices) :
    WellChosen context
      { plan with
        weapons := choices.map (Option.map Prod.fst)
        matchups := choices.map (Option.map Prod.snd) } :=
  ⟨choices, chosen, rfl, rfl⟩

theorem WellChosen.withTally {context : Context α ρ} {plan : Plan α}
    (chosen : plan.WellChosen context) (trials : Nat) (tally : Tally α) :
    (plan.withTally trials tally).WellChosen context := by
  unfold Plan.withTally
  split
  · exact chosen
  · exact chosen

/-- What a plan says of itself is so: of its weapons, as long as the roster is consistent, and of
what it is worth. -/
structure Truthful (context : Context α ρ) (plan : Plan α) : Prop where
  chosen : context.field.roster.Consistent → plan.WellChosen context
  rated : plan.rate context.personality.aggression context = .ok plan.rating

theorem ensures_cover (proceeds : first.Proceeds allowed now) {id : UnitId} {unit : Combatant}
    (alive : first.field.roster.get? id = some unit) :
    (Planner.cover id : Planner α ρ (Cover α)).Ensures now
      fun _ now => first.Proceeds allowed now := by
  apply Planner.Ensures.get_bind
  cases now.covers[id]? with
  | some known => exact Planner.Ensures.pure proceeds
  | none =>
      rcases proceeds.get? alive with ⟨hex, there⟩
      apply Planner.Ensures.ofExcept_bind (Battlefield.unit_eq_ok_iff.mpr there)
      apply Planner.Ensures.set_bind
      exact Planner.Ensures.pure (proceeds.withCovers _)

/-- Live attackers are taken stock of without a failure. -/
theorem ensures_muster (proceeds : first.Proceeds allowed now) (movements : List (UnitId × Hex))
    (plan : Plan α)
    (alive : ∀ movement ∈ movements, ∃ unit, first.field.roster.get? movement.1 = some unit) :
    (muster movements plan : Planner α ρ (Plan α × List Combatant)).Ensures now
      fun mustered now => first.Proceeds allowed now ∧ mustered.1.outline = plan.outline := by
  induction movements generalizing plan now with
  | nil => exact Planner.Ensures.pure ⟨proceeds, rfl⟩
  | cons movement others ih =>
      rcases alive movement (List.mem_cons_self ..) with ⟨unit, alive'⟩
      unfold muster
      apply Planner.Ensures.bind (ensures_cover proceeds alive')
      intro cover now proceeds
      rcases proceeds.get? alive' with ⟨hex, there⟩
      apply Planner.Ensures.get_bind
      apply Planner.Ensures.ofExcept_bind (Battlefield.unit_eq_ok_iff.mpr there)
      apply Planner.Ensures.bind
        (ih proceeds _ fun other member => alive other (List.mem_cons_of_mem _ member))
      rintro mustered now ⟨proceeds, outline⟩
      exact Planner.Ensures.pure ⟨proceeds, outline⟩

/-- In their formation all attackers look for a weapon, and those find one who can initiate an
attack. -/
theorem Present.exists_chooseWeapons {plan : Plan α} (present : plan.Present first)
    {field : Battlefield} (strays : first.field.Strays allowed field) (aggression : α) :
    ∃ choices, plan.chooseWeapons aggression field = .ok choices ∧
      choices.length = plan.movements.length ∧
      ∀ (position : Nat) (id : UnitId) (hex : Hex) (unit : Combatant),
        plan.movements[position]? = some (id, hex) → first.field.roster.get? id = some unit →
        unit.canInitiate = true →
        ∃ choice, choices[position]? = some (some choice) ∧ unit.Arms choice := by
  have each : ∀ id ∈ plan.attackers, ∃ result,
      field.chooseWeapon id plan.target aggression = .ok result ∧
        ∀ unit, first.field.roster.get? id = some unit → unit.canInitiate = true →
          ∃ choice, result = some choice ∧ unit.Arms choice := by
    intro id member
    rcases present.attackers id member with ⟨unit, alive⟩
    rcases present.target with ⟨target, aliveTarget⟩
    rcases strays.units alive with ⟨hex, there, -⟩
    rcases strays.units aliveTarget with ⟨hex', there', -⟩
    rcases Battlefield.exists_chooseWeapon there there' aggression with ⟨choice, chosen, arms⟩
    refine ⟨choice, chosen, ?_⟩
    intro unit' alive' initiates
    rw [alive] at alive'
    cases alive'
    exact arms initiates
  rcases exists_mapM_eq_ok each with ⟨choices, chosen, length, arms⟩
  have length' : choices.length = plan.movements.length := by
    rw [length, Plan.attackers, List.length_map]
  refine ⟨choices, chosen, length', ?_⟩
  intro position id hex unit there alive initiates
  have within : position < choices.length := by
    rw [length']
    exact (List.getElem?_eq_some_iff.mp there).1
  have attacker : plan.attackers[position]? = some id := by
    rw [Plan.attackers, List.getElem?_map, there]
    rfl
  have found : choices[position]? = some choices[position] := List.getElem?_eq_getElem within
  rcases arms position id _ attacker found unit alive initiates with ⟨choice, same, arms⟩
  exact ⟨choice, by rw [found, same], arms⟩

theorem Attended.armed {plan : Plan α} (attended : plan.Attended first)
    (proceeds : first.Continues now) (chosen : plan.WellChosen now) : plan.Armed first.field := by
  rcases chosen with ⟨choices, chosen, weapons, matchups⟩
  rcases attended.present.exists_chooseWeapons
      (Formation.strays_form proceeds.strays attended.may).field now.personality.aggression with
    ⟨choices', chosen', length, arms⟩
  cases chosen.symm.trans chosen'
  apply armed_of_choices weapons matchups length
  intro position id hex unit there alive
  rcases attended.attackers _ (List.mem_of_getElem? there) with ⟨unit', alive', initiates⟩
  cases alive.symm.trans alive'
  exact arms position id hex unit there alive initiates

theorem ensures_tally [RollSource ρ] (proceeds : first.Proceeds allowed now)
    (assaults : List Assault) (target : Vitals) (trials : Nat) :
    (tally assaults target trials : Planner α ρ (Tally α)).Ensures now
      fun _ now => first.Proceeds allowed now := by
  apply Planner.Ensures.get_bind
  apply Planner.Ensures.set_bind
  exact Planner.Ensures.pure (proceeds.withRolls _)

/-- A live plan is analysed without a failure: its attackers choose their weapons where they are
sent, and no one goes elsewhere. -/
theorem ensures_analyze [RollSource ρ] (proceeds : first.Proceeds allowed now) {plan : Plan α}
    (present : plan.Present first)
    (may : ∀ movement ∈ plan.movements, first.field.MayStand allowed movement) :
    (plan.analyze : Planner α ρ (Plan α)).Ensures now fun analysed after =>
      first.Proceeds allowed after ∧ analysed.outline = plan.outline ∧
        ∃ middle, first.Proceeds allowed middle ∧ analysed.WellChosen middle := by
  rcases present.target with ⟨target, aliveTarget⟩
  rcases proceeds.get? aliveTarget with ⟨hex, there⟩
  apply Planner.Ensures.get_bind
  apply Planner.Ensures.ofExcept_bind (Battlefield.unit_eq_ok_iff.mpr there)
  have alive : ∀ movement ∈ plan.movements,
      ∃ unit, first.field.roster.get? movement.1 = some unit :=
    fun movement member => present.attackers movement.1 (List.mem_map_of_mem member)
  apply Planner.Ensures.bind (ensures_muster proceeds plan.movements _ alive)
  rintro ⟨mustered, units⟩ middle ⟨proceeds', outline⟩
  have averaged : mustered.averageTerrain.outline = plan.outline := by
    simpa using outline
  have present := present.of_outline averaged
  have movements : mustered.averageTerrain.movements = plan.movements :=
    (Prod.mk.inj (Prod.mk.inj averaged).2).2
  rw [← movements] at may
  rcases present.exists_chooseWeapons (Formation.strays_form proceeds'.strays may).field
      now.personality.aggression with ⟨choices, chosen, -⟩
  apply Planner.Ensures.bind (ensures_inFormation proceeds' may chosen)
  rintro _ after ⟨continued, rfl⟩
  apply Planner.Ensures.bind (ensures_tally continued _ _ _)
  intro tally after continued
  refine Planner.Ensures.pure ⟨continued, ?_, middle, proceeds', ?_⟩
  · rw [outline_withTally]
    exact averaged
  · apply (wellChosen_of_choices _).withTally
    rw [proceeds'.personality, ← proceeds.personality]
    exact chosen

/-- Taking stock of the attackers of a plan does not change who they are. -/
theorem yields_muster (movements : List (UnitId × Hex)) (plan : Plan α) :
    (muster movements plan : Planner α ρ (Plan α × List Combatant)).Yields
      fun mustered => mustered.1.outline = plan.outline := by
  induction movements generalizing plan with
  | nil => exact Planner.Yields.pure rfl
  | cons movement others ih =>
      unfold muster
      apply Planner.Yields.bind_any
      intro cover
      apply Planner.Yields.bind_any
      intro context
      apply Planner.Yields.bind_any
      intro unit
      refine Planner.Yields.bind (ih _) ?_
      intro mustered outline
      exact Planner.Yields.pure outline

/-- An analysis changes neither the target of a plan nor its movements. -/
theorem yields_analyze [RollSource ρ] (plan : Plan α) :
    (plan.analyze : Planner α ρ (Plan α)).Yields fun analysed =>
      analysed.outline = plan.outline := by
  apply Planner.Yields.bind_any
  intro context
  apply Planner.Yields.bind_any
  intro target
  refine Planner.Yields.bind (yields_muster _ _) ?_
  rintro ⟨mustered, units⟩ outline
  apply Planner.Yields.bind_any
  intro choices
  apply Planner.Yields.bind_any
  intro tally
  apply Planner.Yields.pure
  rw [outline_withTally]
  exact (outline_averageTerrain mustered).trans outline

theorem rate_proceeds {plan : Plan α} (proceeds : first.Proceeds allowed now)
    (alive : ∀ id ∈ plan.attackers, ∃ unit, first.field.roster.get? id = some unit)
    (aggression : α) : plan.rate aggression now = plan.rate aggression first := by
  have engaged : now.engaged = first.engaged :=
    congrArg (fun context => context.engaged) proceeds.frame
  unfold rate
  rw [leaderCouldRecruit_proceeds proceeds alive, proceeds.personality, proceeds.side, engaged,
    proceeds.teams]

theorem exists_rate {plan : Plan α} (proceeds : first.Proceeds allowed now)
    (alive : ∀ id ∈ plan.attackers, ∃ unit, first.field.roster.get? id = some unit)
    (aggression : α) : ∃ rating, plan.rate aggression now = .ok rating := by
  rcases exists_leaderCouldRecruit proceeds alive with ⟨answer, answered⟩
  unfold rate
  simp only [answered, bind, Except.bind, pure, Except.pure]
  split
  · split
    · exact ⟨_, rfl⟩
    · exact ⟨_, rfl⟩
  · split
    · exact ⟨_, rfl⟩
    · exact ⟨_, rfl⟩

end Plan

namespace Search

variable {allowed : UnitId → Hex → Prop} {first now : Context α ρ} {plan : Plan α} [Scalar α]
  [RollSource ρ]

/-- A live plan is assessed without a failure: its attackers choose their weapons where they are
sent, no one goes elsewhere, and the plan is rated for what it is worth. -/
theorem ensures_assess_of_present (proceeds : first.Proceeds allowed now)
    (present : plan.Present first)
    (may : ∀ movement ∈ plan.movements, first.field.MayStand allowed movement) :
    (assess plan : Planner α ρ (Plan α)).Ensures now fun assessed after =>
      first.Proceeds allowed after ∧ assessed.outline = plan.outline ∧
        (∃ middle, first.Proceeds allowed middle ∧ assessed.WellChosen middle) ∧
        assessed.rate first.personality.aggression first = .ok assessed.rating := by
  apply Planner.Ensures.bind (Plan.ensures_analyze proceeds present may)
  rintro analysed now ⟨proceeds, outline, chosen⟩
  have alive := (present.of_outline outline).attackers
  rcases Plan.exists_rate proceeds alive now.personality.aggression with ⟨rating, rated⟩
  apply Planner.Ensures.get_bind
  apply Planner.Ensures.ofExcept_bind rated
  rw [Plan.rate_proceeds proceeds alive, proceeds.personality] at rated
  exact Planner.Ensures.pure ⟨proceeds, outline, chosen, rated⟩

/-- If all attackers can initiate an attack, everyone is armed, and what the plan says of itself is
so. -/
theorem ensures_assess (continues : first.Continues now) (attended : plan.Attended first) :
    (assess plan : Planner α ρ (Plan α)).Ensures now fun assessed now =>
      first.Continues now ∧ assessed.outline = plan.outline ∧ assessed.Armed first.field ∧
        assessed.Truthful first := by
  apply (ensures_assess_of_present continues attended.present attended.may).mono
  rintro assessed after ⟨continues, outline, ⟨middle, between, chosen⟩, rated⟩
  refine ⟨continues, outline, (attended.of_outline outline).armed between chosen, ?_, rated⟩
  intro consistent
  unfold Plan.WellChosen at chosen ⊢
  rw [between.undisturbed consistent, between.personality] at chosen
  exact chosen

theorem yields_assess (plan : Plan α) :
    (assess plan : Planner α ρ (Plan α)).Yields fun assessed =>
      assessed.outline = plan.outline := by
  refine Planner.Yields.bind (Plan.yields_analyze plan) ?_
  intro analysed outline
  apply Planner.Yields.bind_any
  intro context
  apply Planner.Yields.bind_any
  intro rating
  exact Planner.Yields.pure outline

end Search
end Hexfield
