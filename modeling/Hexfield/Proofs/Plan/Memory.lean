import Hexfield.Proofs.Plan.Lookups
import Hexfield.Proofs.Threat.Tally

namespace Hexfield

/-!
A caller cannot tell that covers are remembered.

Planning may be asked for plans again and again, against one target or against all of them, and go
on after a failure.  Whenever a cover is looked up in the course of this, be it remembered or not,
it is the one that is worked out on the field as it was in the beginning.  That is said here by a
look-up that compares the two and fails if they differ: whatever the fault it would fail with, no
answer is another for it.  And where nothing is remembered at all, the answers are the same.
-/

deriving instance DecidableEq for Cover

/-! ## Three faithful ways -/

namespace Planner

variable {α ρ : Type} [Scalar α]

/-- The best cover of a unit, which is worked out each time. -/
def coverAfresh (id : UnitId) : Planner α ρ (Cover α) := do
  let context ← get
  ofExcept (context.freshCover id)

/-- The best cover of a unit, which is looked up once; planning fails if it is not the one that
there was in the beginning. -/
def coverChecked [DecidableEq α] (first : Context α ρ) (fault : Fault) (id : UnitId) :
    Planner α ρ (Cover α) := do
  let cover ← cover id
  match first.freshCover id with
  | .ok best => if cover = best then pure cover else throw fault
  | .error _ => throw fault

variable {first now : Context α ρ}

theorem faithful_coverAfresh : Faithful first (coverAfresh : UnitId → Planner α ρ (Cover α)) := by
  intro id now retains
  refine ⟨now.covers, retains, ?_⟩
  rw [← retains.freshCover id]
  rfl

theorem faithful_cover : Faithful first (cover : UnitId → Planner α ρ (Cover α)) := by
  intro id now retains
  rw [cover_apply]
  cases remembered : now.covers[id]? with
  | some known =>
      refine ⟨now.covers, retains, ?_⟩
      rw [retains.covers remembered]
      rfl
  | none =>
      have fresh : (now.field.unit id).map (Context.bestCover now.field now.ownMoves id) =
          first.freshCover id :=
        retains.freshCover id
      cases found : now.field.unit id with
      | error fault =>
          rw [found] at fresh
          refine ⟨now.covers, retains, ?_⟩
          rw [← fresh]
          rfl
      | ok unit =>
          rw [found] at fresh
          refine ⟨_, retains.withCover fresh.symm, ?_⟩
          rw [← fresh]
          rfl

theorem faithful_coverChecked [DecidableEq α] (fault : Fault) :
    Faithful first (coverChecked first fault) := by
  intro id now retains
  rcases faithful_cover id retains with ⟨covers, retains', found⟩
  refine ⟨covers, retains', ?_⟩
  unfold coverChecked
  simp only [Bind.bind, EStateM.bind, found]
  cases first.freshCover id with
  | error fault => rfl
  | ok best =>
      have passed : (if best = best then pure best else throw fault : Planner α ρ (Cover α)) =
          pure best :=
        if_pos rfl
      exact congrFun passed _

end Planner

/-! ## What there is to find -/

namespace Context

theorem exposure_number (field : Battlefield) (unit : Combatant) (hex : Hex) :
    (exposure field unit hex : Float) ≤ exposure field unit hex := by
  have small : unit.chanceToBeHit (field.terrainAt hex) < 2 ^ 65 :=
    (MovementType.chanceToBeHit_le _ _).trans_lt (by decide)
  exact (Scalar.Ordered.numbers_of_le (Binary64.atMost_percent small).nonneg).2

/-- The cover that is worked out for a unit is on the first of its destinations, or where it stands
if it has none, where it is exposed least. -/
theorem freshCover_eq_ok_iff {ρ : Type} (context : Context Float ρ) (id : UnitId)
    (cover : Cover Float) :
    context.freshCover id = .ok cover ↔
      ∃ unit, context.field.roster.get? id = some unit ∧
        LeastExposed context.field unit (shelters context.ownMoves id unit) cover := by
  have least := fun unit => @leastExposed_bestCover Float _ context.field unit _
    (exposure_number context.field unit) context.ownMoves id
  unfold freshCover Battlefield.unit
  cases alive : context.field.roster.get? id with
  | none =>
      constructor
      · rintro ⟨⟩
      · rintro ⟨unit, there, -⟩
        cases there
  | some unit =>
      constructor
      · rintro ⟨⟩
        exact ⟨unit, rfl, least unit⟩
      · rintro ⟨_, ⟨⟩, chosen⟩
        exact congrArg Except.ok ((least unit).eq chosen)

end Context

/-! ## A caller and its requests -/

namespace Planner

variable {α ρ β : Type}

/-- What comes of planners that run one after another.  A failure does not keep the next one from
running. -/
def outcomes : List (Planner α ρ β) → Context α ρ → List (Except Fault β)
  | [], _ => []
  | planner :: others, context => planner.outcome context :: outcomes others (planner.after context)

def afterAll (planners : List (Planner α ρ β)) (context : Context α ρ) : Context α ρ :=
  planners.foldl (fun context planner => planner.after context) context

end Planner

/-- What planning may be asked for. -/
inductive Request where
  /-- The plans of some candidates against a target. -/
  | attacksOn (target : UnitId) (candidates : List UnitId)
  /-- The plans of the side against all of its enemies. -/
  | attacks

namespace Request

open Planner

variable {α ρ : Type} [Scalar α] [RollSource ρ]

def answer : Request → Planner α ρ (List (Plan α))
  | .attacksOn target candidates => Search.attacksOn target candidates
  | .attacks => Search.attacks

/-- The plans that are asked for; covers are looked up in a given way. -/
def answerWith (lookUp : UnitId → Planner α ρ (Cover α)) : Request → Planner α ρ (List (Plan α))
  | .attacksOn target candidates => Search.attacksOnWith lookUp target candidates
  | .attacks => Search.attacksWith lookUp

theorem answerWith_cover :
    answerWith cover = (answer : Request → Planner α ρ (List (Plan α))) := by
  funext request
  cases request with
  | attacksOn target candidates => exact Search.attacksOnWith_cover target candidates
  | attacks => exact Search.attacksWith_cover

section

variable {first now now' : Context α ρ} {lookUp lookUp' : UnitId → Planner α ρ (Cover α)}
  (faithful : Faithful first lookUp) (faithful' : Faithful first lookUp')

include faithful faithful'

theorem alike_answerWith (request : Request) (twins : first.Twins now now') :
    Alike first.Twins (fun _ => True) (answerWith lookUp request now)
      (answerWith lookUp' request now') := by
  cases request with
  | attacksOn target candidates =>
      exact Search.alike_attacksOnWith faithful faithful' target candidates twins
  | attacks => exact Search.alike_attacksWith faithful faithful' twins

theorem outcomes_answerWith (requests : List Request) (twins : first.Twins now now') :
    outcomes (requests.map (answerWith lookUp)) now =
      outcomes (requests.map (answerWith lookUp')) now' := by
  induction requests generalizing now now' with
  | nil => rfl
  | cons request others ih =>
      have alike := alike_answerWith faithful faithful' request twins
      simp only [List.map_cons, outcomes]
      rw [alike.outcome_eq, ih alike.related_after]

theorem twins_afterAll (requests : List Request) (twins : first.Twins now now') :
    first.Twins (afterAll (requests.map (answerWith lookUp)) now)
      (afterAll (requests.map (answerWith lookUp')) now') := by
  induction requests generalizing now now' with
  | nil => exact twins
  | cons request others ih =>
      have alike := alike_answerWith faithful faithful' request twins
      exact ih alike.related_after

end

/-- However often planning is asked for plans, every cover that is looked up on the way is the one
that there was in the beginning: it would make no difference if planning failed on any other.  So is
a cover that is looked up afterwards.  Without a memory the answers would be the same.  The cover
that there was in the beginning is on the first of the unit's destinations, or of the one hex where
it stands if it has none, on which it is exposed least. -/
theorem answers_without_memory (field : Battlefield) (side : Side)
    (personality : Personality Float) (pathfinder : Pathfinder) (engaged : List Hex) (rolls : ρ)
    (requests : List Request) :
    let first := Context.begin field side personality pathfinder engaged rolls
    let answers := fun lookUp => outcomes (requests.map (answerWith lookUp)) first
    answers cover = outcomes (requests.map answer) first ∧
      (∀ fault, answers (coverChecked first fault) = outcomes (requests.map answer) first) ∧
      answers coverAfresh = outcomes (requests.map answer) first ∧
      ∀ id, (cover id).outcome (afterAll (requests.map answer) first) = first.freshCover id ∧
        ∀ best, first.freshCover id = .ok best ↔
          ∃ unit, field.roster.get? id = some unit ∧
            Context.LeastExposed field unit (Context.shelters first.ownMoves id unit) best := by
  intro first answers
  have start : first.Retains first := Context.Retains.refl rfl
  have asked : answers cover = outcomes (requests.map answer) first := by
    simp only [answers, answerWith_cover]
  refine ⟨asked, ?_, ?_, ?_⟩
  · intro fault
    rw [← asked]
    exact outcomes_answerWith (faithful_coverChecked fault) faithful_cover requests start.twins
  · rw [← asked]
    exact outcomes_answerWith faithful_coverAfresh faithful_cover requests start.twins
  · intro id
    refine ⟨?_, first.freshCover_eq_ok_iff id⟩
    have twins := twins_afterAll faithful_cover faithful_cover requests start.twins
    rw [answerWith_cover] at twins
    rcases faithful_cover id twins.retains with ⟨covers, -, found⟩
    unfold outcome
    rw [found]
    cases first.freshCover id with
    | error fault => rfl
    | ok best => rfl

end Request
end Hexfield
