import Hexfield.Plan.Analysis
import Hexfield.Plan.Rating

namespace Hexfield

/-!
The search for plans against one target.

A plan is grown one attacker at a time.  An attacker joins, the plan is assessed, and the attacker
leaves again; in between, a plan that rates higher than every plan before it with one attacker less
is recorded and grown further.  The assessment is a parameter of the growth, which knows nothing of
how ratings come about.
-/

/-- A plan being grown, the attackers that are not yet in it, and the sides of the target that are
taken. -/
structure Draft (α : Type) where
  plan : Plan α
  pool : List UnitId
  taken : List Direction

/-- What it takes to undo that an attacker has joined. -/
structure Commitment (α : Type) where
  /-- The plan before. -/
  saved : Plan α
  unit : UnitId
  /-- Where in the pool the attacker was. -/
  position : Nat
  place : Direction

namespace Draft

variable {α : Type} [Scalar α]

@[specialize] def against (target : UnitId) (targetHex : Hex) (pool : List UnitId) : Draft α :=
  { plan := Plan.against target targetHex, pool, taken := [] }

def depth (draft : Draft α) : Nat :=
  draft.plan.movements.length

@[specialize] def commit (draft : Draft α) (position : Nat) (unit : UnitId)
    (approach : Approach α) : Draft α × Commitment α :=
  let plan :=
    { draft.plan with
      movements := draft.plan.movements ++ [(unit, approach.hex)]
      vulnerability := draft.plan.vulnerability + approach.vulnerability
      support := draft.plan.support + approach.support
      isSurrounded := approach.surrounded }
  ({ plan, pool := draft.pool.eraseIdx position, taken := approach.place :: draft.taken },
    { saved := draft.plan, unit, position, place := approach.place })

/-- The attacker that joined leaves again, and its side of the target is free. -/
def release (draft : Draft α) (commitment : Commitment α) : Draft α :=
  { plan := commitment.saved
    pool := draft.pool.insertIdx commitment.position commitment.unit
    taken := draft.taken.filter fun place => place != commitment.place }

end Draft

/-- What a search has found so far. -/
structure Findings (α : Type) where
  /-- The best rating of a plan of so many attackers that was grown further. -/
  bestOf : Std.ExtTreeMap Nat α := ∅
  /-- The plans recorded, in the order in which they were found. -/
  plans : List (Plan α) := []

namespace Findings

variable {α : Type} [Scalar α]

/-- The lower rated of two plans, the first one if they are rated equally. -/
@[specialize] def worse (worst candidate : Plan α) : Plan α :=
  if candidate.rating < worst.rating then candidate else worst

/-- The plans without the first of those that are rated lowest. -/
@[specialize] def dropWorst : List (Plan α) → List (Plan α)
  | [] => []
  | first :: others =>
      let worst := others.foldl worse first
      (first :: others).eraseP fun plan => !decide (worst.rating < plan.rating)

/-- One more plan is recorded; if there are more than `limit` then, the worst is dropped. -/
@[specialize] def record (findings : Findings α) (limit : Nat) (plan : Plan α) : Findings α :=
  let plans := findings.plans ++ [plan]
  { findings with plans := if limit < plans.length then dropWorst plans else plans }

/-- The rating that a plan with one more attacker than `depth` has to exceed, when a plan of `depth`
attackers rated `current` is grown further.  The first attacker has to exceed a rejection only. -/
@[specialize] def toExceed (findings : Findings α) (depth : Nat) (current : α) :
    α × Findings α :=
  if depth = 0 then (Plan.rejected, findings)
  else
    let best :=
      match findings.bestOf[depth]? with
      | some known => Scalar.larger known current
      | none => current
    (best, { findings with bestOf := findings.bestOf.insert depth best })

end Findings

namespace Search

variable {α ρ : Type} [Scalar α]

structure Progress (α : Type) where
  draft : Draft α
  findings : Findings α

/-- A unit may join a plan of so many attackers.  Slowing the target pays only before anyone else
strikes. -/
def mayJoin (unit : Combatant) (depth : Nat) : Bool :=
  !unit.incapacitated && unit.canInitiate && (depth == 0 || !unit.wields .slow)

/-- The attacker at a position of the pool joins, as far as it can; if the plan then rates high
enough, it is recorded and grown further by `deepen`.  The attacker leaves again. -/
@[specialize] def consider (assess : Plan α → Planner α ρ (Plan α))
    (deepen : α → Progress α → Planner α ρ (Progress α)) (toExceed : α)
    (progress : Progress α) (position : Nat) : Planner α ρ (Progress α) := do
  match progress.draft.pool[position]? with
  | none => pure progress
  | some id =>
      let context ← get
      let unit ← ofExcept (context.field.unit id)
      if !mayJoin unit progress.draft.depth then pure progress
      else
        match Approach.best? context id unit progress.draft.plan.targetHex
            progress.draft.taken with
        | none => pure progress
        | some approach =>
            let (draft, commitment) := progress.draft.commit position id approach
            let plan ← assess draft.plan
            let joined : Progress α := { progress with draft := { draft with plan } }
            let after ←
              if toExceed < plan.rating then
                let limit := context.personality.maxResults
                deepen plan.rating
                  { joined with findings := joined.findings.record limit plan }
              else
                pure joined
            pure { after with draft := after.draft.release commitment }

/-- A plan rated `current` is grown by at most so many attackers in every way. -/
@[specialize] def grow (assess : Plan α → Planner α ρ (Plan α)) :
    (attackers : Nat) → α → Progress α → Planner α ρ (Progress α)
  | 0, _, progress => pure progress
  | attackers + 1, current, progress => do
      let (toExceed, findings) := progress.findings.toExceed progress.draft.depth current
      (List.range progress.draft.pool.length).foldlM
        (consider assess (grow assess attackers) toExceed) { progress with findings }

/-- A plan is analysed and rated with the aggression of the personality. -/
@[specialize] def assess [RollSource ρ] (plan : Plan α) : Planner α ρ (Plan α) := do
  let plan ← plan.analyze
  let context ← get
  let rating ← ofExcept (plan.rate context.personality.aggression context)
  pure { plan with rating }

/-- The plans with the best in front; among equals the one found first. -/
@[specialize] def ranked (plans : List (Plan α)) : List (Plan α) :=
  plans.mergeSort fun a b => decide (b.rating ≤ a.rating)

/-- A search keeps one rating for each number of attackers that a plan may have, none included; this
many ratings and more are not kept. -/
def ratingsLimit : Nat :=
  Nat.pow 2 60

/-- Every plan against a target that is worth keeping, the best in front.  The caller promises at
least one candidate, and no more attackers to a plan than there can be ratings. -/
@[specialize] def attacksOn [RollSource ρ] (target : UnitId) (candidates : List UnitId) :
    Planner α ρ (List (Plan α)) := do
  if candidates.isEmpty then throw (.noCandidates target)
  let context ← get
  let unit ← ofExcept (context.field.unit target)
  let depth := context.personality.attackDepth
  if ratingsLimit ≤ depth + 1 then throw (.tooDeep depth)
  let start : Progress α :=
    { draft := Draft.against target unit.hex candidates, findings := {} }
  let progress ← grow assess depth Plan.rejected start
  pure (ranked progress.findings.plans)

/-- A search fails on the spot, or else it is a growth from nothing. -/
theorem attacksOn_apply [RollSource ρ] (target : UnitId) (candidates : List UnitId)
    (context : Context α ρ) :
    attacksOn target candidates context =
      if candidates.isEmpty then .error (.noCandidates target) context
      else
        match context.field.unit target with
        | .error fault => .error fault context
        | .ok unit =>
            if ratingsLimit ≤ context.personality.attackDepth + 1 then
              .error (.tooDeep context.personality.attackDepth) context
            else
              (grow assess context.personality.attackDepth Plan.rejected
                  { draft := Draft.against target unit.hex candidates, findings := {} } >>=
                fun progress => pure (ranked progress.findings.plans)) context := by
  unfold attacksOn
  by_cases noOne : candidates.isEmpty = true
  · simp only [if_pos noOne]
    rfl
  · simp only [if_neg noOne]
    cases found : context.field.unit target with
    | error fault =>
        change EStateM.bind (ofExcept (context.field.unit target)) _ context = _
        rw [found]
        rfl
    | ok unit =>
        change EStateM.bind (ofExcept (context.field.unit target)) _ context = _
        rw [found]
        by_cases tooDeep : ratingsLimit ≤ context.personality.attackDepth + 1
        · simp only [if_pos tooDeep]
          rfl
        · simp only [if_neg tooDeep]
          rfl

/-- The units of a list that are alive, not petrified, and fit for something. -/
def activeAnd (field : Battlefield) (fit : Combatant → Bool) (ids : List UnitId) : List UnitId :=
  ids.filter fun id => (field.roster.get? id).any fun unit => !unit.incapacitated && fit unit

/-- The plans of all attackers of the side against all of its enemies, the best in front. -/
@[specialize] def attacks [RollSource ρ] : Planner α ρ (List (Plan α)) := do
  let context ← get
  let field := context.field
  let candidates := activeAnd field Combatant.canInitiate (field.unitsOf context.side)
  if candidates.isEmpty then pure []
  else
    let targets := activeAnd field (fun _ => true) (field.enemiesOf context.side)
    let plans ← targets.mapM fun target => attacksOn target candidates
    pure (ranked plans.flatten)

/-- The best plan, if it rates above zero. -/
@[specialize] def bestAttack [RollSource ρ] : Planner α ρ (Option (Plan α)) := do
  let plans ← attacks
  pure (plans.find? fun plan => 0.0 < plan.rating)

end Search

end Hexfield
