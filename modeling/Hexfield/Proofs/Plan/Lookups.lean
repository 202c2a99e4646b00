import Hexfield.Proofs.Plan.Covers
import Hexfield.Proofs.Plan.Legality

namespace Hexfield

/-!
That covers are remembered does not show.

The cover of a unit is looked up in the middle of an assessment, when others have been assessed
before and their attackers have been on other hexes.  It is nevertheless the cover that there was
when planning began.  A unit that can move anywhere looks for cover among its destinations only,
wherever it stands; one that cannot is in no plan but where it stands already.  The ground does not
change, and no one comes or goes.  So the way in which covers are looked up may be exchanged for any
other that finds what there was at first, and the plans stay the same.
-/

/-! ## Ways to look up covers -/

namespace Context

variable {α ρ : Type} [Scalar α]

/-- The best cover of a unit, worked out on the field as it stands. -/
def freshCover (context : Context α ρ) (id : UnitId) : Except Fault (Cover α) :=
  (context.field.unit id).map (bestCover context.field context.ownMoves id)

end Context

namespace Plan

variable {α ρ : Type} [Scalar α] (lookUp : UnitId → Planner α ρ (Cover α))

/-- The attackers are taken stock of one by one; covers are looked up in a given way. -/
def musterWith : List (UnitId × Hex) → Plan α → Planner α ρ (Plan α × List Combatant)
  | [], plan => pure (plan, [])
  | (id, hex) :: others, plan => do
      let cover ← lookUp id
      let context ← get
      let unit ← ofExcept (context.field.unit id)
      let (plan, units) ← musterWith others (plan.enlist context.field unit hex cover)
      pure (plan, unit :: units)

theorem musterWith_cover (movements : List (UnitId × Hex)) (plan : Plan α) :
    musterWith Planner.cover movements plan =
      (muster movements plan : Planner α ρ (Plan α × List Combatant)) := by
  induction movements generalizing plan with
  | nil => rfl
  | cons movement others ih =>
      unfold musterWith muster
      simp only [ih]

/-- A plan is analysed; covers are looked up in a given way. -/
def analyzeWith [RollSource ρ] (plan : Plan α) : Planner α ρ (Plan α) := do
  let context ← get
  let target ← ofExcept (context.field.unit plan.target)
  let (plan, units) ←
    musterWith lookUp plan.movements (plan.appraise context.field context.side target)
  let plan := plan.averageTerrain
  let personality := context.personality
  let choices ← inFormation plan.movements (plan.chooseWeapons personality.aggression)
  let plan :=
    { plan with
      weapons := choices.map (Option.map Prod.fst)
      matchups := choices.map (Option.map Prod.snd) }
  let assaults := (units.zip plan.matchups).map fun assault =>
    ({ cost := assault.1.cost, vitals := assault.1.vitals, matchup := assault.2 } : Assault)
  let tally ← tally assaults target.vitals personality.simulationTrials
  pure (plan.withTally personality.simulationTrials tally)

theorem analyzeWith_cover [RollSource ρ] (plan : Plan α) :
    analyzeWith Planner.cover plan = (plan.analyze : Planner α ρ (Plan α)) := by
  unfold analyzeWith analyze
  simp only [musterWith_cover]

end Plan

namespace Search

variable {α ρ : Type} [Scalar α] [RollSource ρ] (lookUp : UnitId → Planner α ρ (Cover α))

/-- A plan is assessed; covers are looked up in a given way. -/
def assessWith (plan : Plan α) : Planner α ρ (Plan α) := do
  let plan ← plan.analyzeWith lookUp
  let context ← get
  let rating ← ofExcept (plan.rate context.personality.aggression context)
  pure { plan with rating }

theorem assessWith_cover : assessWith Planner.cover = (assess : Plan α → Planner α ρ (Plan α)) := by
  funext plan
  unfold assessWith assess
  rw [Plan.analyzeWith_cover]

/-- The plans against a target; covers are looked up in a given way. -/
def attacksOnWith (target : UnitId) (candidates : List UnitId) : Planner α ρ (List (Plan α)) :=
  if candidates.isEmpty then throw (.noCandidates target)
  else do
    let context ← get
    let unit ← ofExcept (context.field.unit target)
    let depth := context.personality.attackDepth
    if ratingsLimit ≤ depth + 1 then throw (.tooDeep depth)
    else do
      let progress ← grow (assessWith lookUp) depth Plan.rejected
        { draft := Draft.against target unit.hex candidates, findings := {} }
      pure (ranked progress.findings.plans)

theorem attacksOnWith_cover (target : UnitId) (candidates : List UnitId) :
    attacksOnWith Planner.cover target candidates =
      (attacksOn target candidates : Planner α ρ (List (Plan α))) := by
  unfold attacksOnWith attacksOn
  rw [assessWith_cover]
  by_cases noOne : candidates.isEmpty = true
  · simp only [if_pos noOne]
    rfl
  · simp only [if_neg noOne]
    rfl

/-- The plans against all enemies; covers are looked up in a given way. -/
def attacksWith : Planner α ρ (List (Plan α)) := do
  let context ← get
  let field := context.field
  let candidates := activeAnd field Combatant.canInitiate (field.unitsOf context.side)
  if candidates.isEmpty then pure []
  else
    let targets := activeAnd field (fun _ => true) (field.enemiesOf context.side)
    let plans ← targets.mapM fun target => attacksOnWith lookUp target candidates
    pure (ranked plans.flatten)

theorem attacksWith_cover :
    attacksWith Planner.cover = (attacks : Planner α ρ (List (Plan α))) := by
  unfold attacksWith attacks
  simp only [attacksOnWith_cover]

end Search

/-! ## What stays so while planning goes on -/

namespace Context

variable {α ρ : Type} [Scalar α]

/-- Planning has gone on, no one has come since, and what is remembered is what there was at
first. -/
structure Retains (first now : Context α ρ) : Prop where
  continues : first.Continues now
  gone : ∀ {id}, first.field.roster.get? id = none → now.field.roster.get? id = none
  covers : ∀ {id cover}, now.covers[id]? = some cover → first.freshCover id = .ok cover

variable {first now : Context α ρ}

theorem Retains.refl (forgetful : first.covers = ∅) : first.Retains first := by
  refine ⟨Continues.refl first, fun gone => gone, ?_⟩
  intro id cover known
  rw [forgetful] at known
  simp at known

/-- A unit with nowhere to go finds the same cover where it stands, and any other unit wherever it
stands. -/
theorem bestCover_congr {field : Battlefield} {moves : MoveMaps} {id : UnitId} {unit : Combatant}
    {hex : Hex} (reason : hex = unit.hex ∨ moves.reaches id hex = true) :
    (bestCover field moves id { unit with hex } : Cover α) = bestCover field moves id unit := by
  unfold bestCover
  cases listed : moves.destinations id with
  | cons next others => rfl
  | nil =>
      rcases reason with rfl | reached
      · rfl
      · have impossible := Halving.mem_of_contains reached
        rw [listed] at impossible
        cases impossible

/-- The best cover of a unit does not change while planning goes on. -/
theorem Retains.freshCover (retains : first.Retains now) (id : UnitId) :
    now.freshCover id = first.freshCover id := by
  have terrain : now.field.terrainAt = first.field.terrainAt := by
    rw [retains.continues.strays.frame]
    rfl
  unfold Context.freshCover Battlefield.unit
  rw [retains.continues.ownMoves]
  cases alive : first.field.roster.get? id with
  | none =>
      rw [retains.gone alive]
      rfl
  | some unit =>
      -- The unit may be elsewhere on a roster that is not consistent, but only where it can go.
      rcases retains.continues.strays.units alive with ⟨hex, there, reason⟩
      rw [there]
      have same : (bestCover now.field first.ownMoves id { unit with hex } : Cover α) =
          bestCover first.field first.ownMoves id unit := by
        rw [bestCover_congr reason]
        unfold bestCover coverAt
        rw [terrain]
      exact congrArg Except.ok same

theorem Retains.withRolls (retains : first.Retains now) (rolls : ρ) :
    first.Retains { now with rolls } :=
  ⟨retains.continues.withRolls rolls, retains.gone, retains.covers⟩

theorem Retains.withFormation (retains : first.Retains now) {movements : List (UnitId × Hex)}
    (may : ∀ movement ∈ movements,
      first.field.MayStand (fun id hex => first.ownMoves.reaches id hex = true) movement) :
    first.Retains { now with field := (Formation.form now.field movements).disband } := by
  refine ⟨retains.continues.withFormation may, ?_, retains.covers⟩
  intro id gone
  refine Formation.disband_form_induction (motive := fun field => field.roster.get? id = none) ?_
    (retains.gone gone) movements
  intro field after mover target gone moved
  rcases Battlefield.relocate_eq_ok_iff.mp moved with ⟨roster, relocated, rfl⟩
  simp [Roster.get?_relocate relocated, gone]

/-- A cover that is looked up while planning goes on may be remembered. -/
theorem Retains.withCover (retains : first.Retains now) {id : UnitId} {cover : Cover α}
    (found : first.freshCover id = .ok cover) :
    first.Retains { now with covers := now.covers.insert id cover } := by
  refine ⟨retains.continues.withCovers _, retains.gone, ?_⟩
  exact forall_insert_cover (fun id cover => first.freshCover id = .ok cover) retains.covers found

/-- Planning has gone on in two ways that differ in nothing but what is remembered. -/
structure Twins (first now now' : Context α ρ) : Prop where
  retains : first.Retains now
  retains' : first.Retains now'
  same : now' = { now with covers := now'.covers }

theorem Retains.twins (retains : first.Retains now) : first.Twins now now :=
  ⟨retains, retains, rfl⟩

theorem Twins.field {now' : Context α ρ} (twins : first.Twins now now') : now'.field = now.field :=
  congrArg (fun context => context.field) twins.same

theorem Twins.side {now' : Context α ρ} (twins : first.Twins now now') : now'.side = now.side :=
  congrArg (fun context => context.side) twins.same

theorem Twins.personality {now' : Context α ρ} (twins : first.Twins now now') :
    now'.personality = now.personality :=
  congrArg (fun context => context.personality) twins.same

end Context

/-- A way to look up covers is faithful if it finds what there was at first, however long planning
goes on, and changes nothing but what is remembered. -/
def Planner.Faithful {α ρ : Type} [Scalar α] (first : Context α ρ)
    (lookUp : UnitId → Planner α ρ (Cover α)) : Prop :=
  ∀ (id : UnitId) {now : Context α ρ}, first.Retains now →
    ∃ covers, first.Retains { now with covers } ∧
      lookUp id now = (ofExcept (first.freshCover id) : Planner α ρ (Cover α)) { now with covers }

/-! ## Any two faithful ways come to the same -/

section

variable {α ρ : Type} [Scalar α] {first now now' : Context α ρ}
  {lookUp lookUp' : UnitId → Planner α ρ (Cover α)}
  (faithful : Planner.Faithful first lookUp) (faithful' : Planner.Faithful first lookUp')

open Planner

namespace Plan

/-- Everyone in a plan may stand where the plan sends it. -/
def Lawful (first : Context α ρ) (plan : Plan α) : Prop :=
  ∀ movement ∈ plan.movements,
    first.field.MayStand (fun id hex => first.ownMoves.reaches id hex = true) movement

omit [Scalar α] in
theorem Lawful.of_outline {plan plan' : Plan α} (lawful : plan.Lawful first)
    (same : plan'.outline = plan.outline) : plan'.Lawful first := by
  have movements : plan'.movements = plan.movements := (Prod.mk.inj (Prod.mk.inj same).2).2
  unfold Lawful
  rw [movements]
  exact lawful

/-- A plan stays lawful when a unit joins that can strike from where it is sent. -/
theorem Lawful.commit {draft : Draft α} (lawful : draft.plan.Lawful first)
    (continues : first.Continues now) {id : UnitId} {unit : Combatant}
    (there : now.field.roster.get? id = some unit) {targetHex : Hex} {taken : List Direction}
    {approach : Approach α} (best : Approach.best? now id unit targetHex taken = some approach)
    (position : Nat) : (draft.commit position id approach).1.plan.Lawful first := by
  intro movement member
  rcases List.mem_append.mp member with earlier | last
  · exact lawful movement earlier
  · rw [List.mem_singleton.mp last]
    intro unit' alive
    rcases continues.strays.units alive with ⟨hex, there', reason⟩
    cases there.symm.trans there'
    have isOpen := (Approach.of_best?_eq_some best).2.2
    simp only [Approach.isOpen, continues.ownMoves, Bool.and_eq_true, Bool.or_eq_true,
      beq_iff_eq] at isOpen
    rcases isOpen.2 with stands | reached
    · simp only
      rw [← stands]
      exact reason
    · exact Or.inr reached

theorem rate_twins (twins : first.Twins now now') (plan : Plan α) (aggression : α) :
    plan.rate aggression now' = plan.rate aggression now := by
  have searched : ∀ (keeps : List Hex) (attackers : List UnitId),
      leaderCouldRecruit.search now' keeps attackers =
        leaderCouldRecruit.search now keeps attackers := by
    intro keeps attackers
    rw [twins.same]
    induction attackers with
    | nil => rfl
    | cons id others ih => simp only [leaderCouldRecruit.search, ih]
  unfold rate leaderCouldRecruit
  rw [searched, twins.same]

/-- In formation the same is found, and no one is left on a hex that is not among its
destinations. -/
theorem alike_inFormation {β : Type} {movements : List (UnitId × Hex)}
    (may : ∀ movement ∈ movements,
      first.field.MayStand (fun id hex => first.ownMoves.reaches id hex = true) movement)
    (read : Battlefield → Except Fault β) (twins : first.Twins now now') :
    Alike first.Twins (fun _ => True) (inFormation movements read now)
      (inFormation movements read now') := by
  have disbanded := twins.retains.withFormation may
  have disbanded' := twins.retains'.withFormation may
  rcases twins with ⟨-, -, same⟩
  rw [same] at disbanded' ⊢
  exact (Alike.ofExcept ⟨disbanded, disbanded', rfl⟩ _).mono fun _ _ => trivial

theorem alike_tally [RollSource ρ] (assaults : List Assault) (target : Vitals) (trials : Nat)
    (twins : first.Twins now now') :
    Alike first.Twins (fun _ => True) ((tally assaults target trials : Planner α ρ (Tally α)) now)
      ((tally assaults target trials : Planner α ρ (Tally α)) now') := by
  have rolled := fun rolls => twins.retains.withRolls rolls
  have rolled' := fun rolls => twins.retains'.withRolls rolls
  rcases twins with ⟨-, -, same⟩
  rw [same] at rolled' ⊢
  exact .ok trivial ⟨rolled _, rolled' _, rfl⟩

end Plan

include faithful faithful'

theorem Planner.alike_lookUp (id : UnitId) (twins : first.Twins now now') :
    Alike first.Twins (fun _ => True) (lookUp id now) (lookUp' id now') := by
  rcases faithful id twins.retains with ⟨covers, retains, found⟩
  rcases faithful' id twins.retains' with ⟨covers', retains', found'⟩
  rw [found, found']
  have twins : first.Twins { now with covers } { now' with covers := covers' } := by
    refine ⟨retains, retains', ?_⟩
    rw [twins.same]
  exact (Alike.ofExcept twins _).mono fun _ _ => trivial

namespace Plan

theorem alike_musterWith (movements : List (UnitId × Hex)) (plan : Plan α)
    (twins : first.Twins now now') :
    Alike first.Twins (fun mustered => mustered.1.outline = plan.outline)
      (musterWith lookUp movements plan now) (musterWith lookUp' movements plan now') := by
  induction movements generalizing plan now now' with
  | nil => exact .ok rfl twins
  | cons movement others ih =>
      unfold musterWith
      apply Alike.bind (alike_lookUp faithful faithful' movement.1 twins)
      intro cover now now' _ twins
      apply Alike.get_bind
      rw [twins.field]
      apply Alike.bind (Alike.ofExcept twins _)
      intro unit now now' _ twins
      apply Alike.bind (ih _ twins)
      intro mustered now now' outline twins
      exact .ok outline twins

/-- The analysis of a lawful plan comes to the same, and does not change where it sends anyone. -/
theorem alike_analyzeWith [RollSource ρ] {plan : Plan α} (lawful : plan.Lawful first)
    (twins : first.Twins now now') :
    Alike first.Twins (fun analysed => analysed.outline = plan.outline)
      (plan.analyzeWith lookUp now) (plan.analyzeWith lookUp' now') := by
  apply Alike.get_bind
  rw [twins.field, twins.side, twins.personality]
  apply Alike.bind (Alike.ofExcept twins _)
  intro target now now' _ twins
  apply Alike.bind (alike_musterWith faithful faithful' _ _ twins)
  rintro ⟨mustered, units⟩ now now' outline twins
  have averaged : mustered.averageTerrain.outline = plan.outline := by simpa using outline
  apply Alike.bind (alike_inFormation (lawful.of_outline averaged) _ twins)
  intro choices now now' _ twins
  apply Alike.bind (alike_tally _ _ _ twins)
  intro tally now now' _ twins
  refine .ok ?_ twins
  rw [outline_withTally]
  exact averaged

end Plan

namespace Search

variable [RollSource ρ]

theorem alike_assessWith {plan : Plan α} (lawful : plan.Lawful first)
    (twins : first.Twins now now') :
    Alike first.Twins (fun assessed => assessed.outline = plan.outline)
      (assessWith lookUp plan now) (assessWith lookUp' plan now') := by
  apply Alike.bind (Plan.alike_analyzeWith faithful faithful' lawful twins)
  intro analysed now now' outline twins
  apply Alike.get_bind
  rw [twins.personality, Plan.rate_twins twins]
  apply Alike.bind (Alike.ofExcept twins _)
  intro rating now now' _ twins
  exact .ok outline twins

omit faithful faithful' [RollSource ρ] in
/-- A step of the growth comes to the same if what it is made of does. -/
theorem alike_consider {assess assess' : Plan α → Planner α ρ (Plan α)}
    {deepen deepen' : α → Progress α → Planner α ρ (Progress α)}
    (assessing : ∀ {plan : Plan α} {now now' : Context α ρ}, plan.Lawful first →
      first.Twins now now' → Alike first.Twins (fun assessed => assessed.outline = plan.outline)
        (assess plan now) (assess' plan now'))
    (deepening : ∀ (current : α) {progress : Progress α} {now now' : Context α ρ},
      progress.draft.plan.Lawful first → first.Twins now now' →
        Alike first.Twins (fun grown => grown.draft.plan.Lawful first)
          (deepen current progress now) (deepen' current progress now'))
    (toExceed : α) (position : Nat) {progress : Progress α}
    (lawful : progress.draft.plan.Lawful first) (twins : first.Twins now now') :
    Alike first.Twins (fun after => after.draft.plan.Lawful first)
      (consider assess deepen toExceed progress position now)
      (consider assess' deepen' toExceed progress position now') := by
  unfold consider
  cases progress.draft.pool[position]? with
  | none => exact .ok lawful twins
  | some id =>
      apply Alike.get_bind
      have best : ∀ unit, Approach.best? now' id unit progress.draft.plan.targetHex
          progress.draft.taken =
            Approach.best? now id unit progress.draft.plan.targetHex progress.draft.taken := by
        intro unit
        rw [twins.same]
        rfl
      simp only [twins.field, twins.personality, best]
      -- The contexts of later steps are other ones; what is looked at is the context of now.
      have continues := twins.retains.continues
      apply Alike.bind (Alike.ofExcept twins _)
      intro unit after after' found twins
      have there := Battlefield.unit_eq_ok_iff.mp found
      by_cases barred : (!mayJoin unit progress.draft.depth) = true
      · simp only [if_pos barred]
        exact .ok lawful twins
      · simp only [if_neg barred]
        cases found : Approach.best? now id unit progress.draft.plan.targetHex
            progress.draft.taken with
        | none => exact .ok lawful twins
        | some approach =>
            have joined := lawful.commit continues there found position
            apply Alike.bind (assessing joined twins)
            intro plan after after' outline twins
            by_cases exceeds : toExceed < plan.rating
            · simp only [if_pos exceeds]
              apply Alike.bind (deepening _ (joined.of_outline outline) twins)
              intro grown after after' _ twins
              -- The attacker leaves again, so the plan is the one that was saved.
              exact .ok lawful twins
            · simp only [if_neg exceeds]
              exact .ok lawful twins

/-- A growth comes to the same: every draft on the way is lawful, since attackers join where they
can strike from. -/
theorem alike_grow (attackers : Nat) (current : α) {progress : Progress α}
    (lawful : progress.draft.plan.Lawful first) (twins : first.Twins now now') :
    Alike first.Twins (fun grown => grown.draft.plan.Lawful first)
      (grow (assessWith lookUp) attackers current progress now)
      (grow (assessWith lookUp') attackers current progress now') := by
  induction attackers generalizing current progress now now' with
  | zero => exact .ok lawful twins
  | succ attackers ih =>
      refine Alike.foldlM ?_ _ lawful twins
      intro state position now now' lawful twins
      exact alike_consider (alike_assessWith faithful faithful') (fun current => ih current) _
        position lawful twins

theorem alike_attacksOnWith (target : UnitId) (candidates : List UnitId)
    (twins : first.Twins now now') :
    Alike first.Twins (fun _ => True) (attacksOnWith lookUp target candidates now)
      (attacksOnWith lookUp' target candidates now') := by
  unfold attacksOnWith
  by_cases noOne : candidates.isEmpty = true
  · rw [if_pos noOne, if_pos noOne]
    exact .error twins
  · rw [if_neg noOne, if_neg noOne]
    apply Alike.get_bind
    rw [twins.field, twins.personality]
    apply Alike.bind (Alike.ofExcept twins _)
    intro unit after after' _ twins
    by_cases tooDeep : ratingsLimit ≤ now.personality.attackDepth + 1
    · simp only [if_pos tooDeep]
      exact .error twins
    · simp only [if_neg tooDeep]
      have lawful : (Draft.against target unit.hex candidates : Draft α).plan.Lawful first := by
        intro movement member
        cases member
      apply Alike.bind (alike_grow faithful faithful' _ _ lawful twins)
      intro grown after after' _ twins
      exact .ok trivial twins

theorem alike_attacksWith (twins : first.Twins now now') :
    Alike first.Twins (fun _ => True) (attacksWith lookUp now) (attacksWith lookUp' now') := by
  apply Alike.get_bind
  simp only [twins.field, twins.side]
  by_cases noOne : (activeAnd now.field Combatant.canInitiate
      (now.field.unitsOf now.side)).isEmpty = true
  · simp only [if_pos noOne]
    exact .ok trivial twins
  · simp only [if_neg noOne]
    apply Alike.bind (Alike.mapM (fun target _ _ twins =>
      alike_attacksOnWith faithful faithful' target _ twins) _ twins)
    intro plans after after' _ twins
    exact .ok trivial twins

end Search

end

end Hexfield
