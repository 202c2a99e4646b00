import Hexfield.Plan.Search
import Hexfield.Proofs.Exchange.Opening
import Hexfield.Proofs.Plan.Formation
import Hexfield.Proofs.Plan.Planner

namespace Hexfield

/-!
Planning leaves no trace.

The field is touched in one place only, where the attackers of a plan take their formation.  On a
consistent roster a formation that is disbanded leaves the field it was formed on, whether the
weapons could be chosen in it or not.  Everything else reads the field and no more, so any number of
plans can be grown and assessed, and given up in the middle, without the field showing it.
-/

variable {α ρ : Type} {field : Battlefield}

def Context.skirmish : Context Float (List Roll) :=
  .begin .skirmish ⟨1⟩ (.ofName "Raiders") .terrain [] []

def Combatant.archer : Combatant :=
  (ofType "Archer" ⟨1⟩ ⟨3, 0⟩ 34).withWeapon .bow

/-- The skirmish on a wider field, with an archer who is not yet beside the guard. -/
def Battlefield.raid : Battlefield :=
  { skirmish with
    board := .flat 4 2
    roster :=
      { slots := #[some .raider, some .guard, some .archer]
        index := skirmish.roster.index.insert ⟨3, 0⟩ ⟨2⟩ } }

theorem Battlefield.consistent_raid : raid.roster.Consistent :=
  consistent_skirmish.insert (by decide) (rfl : skirmish.roster.insert .archer = .ok (⟨2⟩, _))

def Context.raid : Context Float (List Roll) :=
  .begin .raid ⟨1⟩ (.ofName "Raiders") .terrain [] []

theorem Context.exists_unit_raid :
    ∀ id ∈ [(⟨2⟩ : UnitId), ⟨0⟩], ∃ unit, Context.raid.field.roster.get? id = some unit := by
  rw [List.forall_mem_cons, List.forall_mem_singleton]
  exact ⟨⟨.archer, rfl⟩, ⟨.raider, rfl⟩⟩

namespace Planner

theorem keeps_cover [Scalar α] (id : UnitId) : (cover id : Planner α ρ (Cover α)).Keeps field := by
  apply Keeps.get_bind
  intro context found
  cases context.covers[id]? with
  | some known => exact Keeps.pure known
  | none =>
      apply Keeps.bind (Keeps.ofExcept _)
      intro unit
      exact Keeps.bind (Keeps.set found) fun _ => Keeps.pure _

end Planner

namespace Plan

open Planner

/-- Whatever is looked for in a formation, the field is as it was afterwards. -/
theorem keeps_inFormation {β : Type} (consistent : field.roster.Consistent)
    (movements : List (UnitId × Hex)) (read : Battlefield → Except Fault β) :
    (inFormation movements read : Planner α ρ β).Keeps field := by
  apply Keeps.get_bind
  intro context found
  have restored : (Formation.form context.field movements).disband = field := by
    rw [found]
    exact Formation.disband_form consistent movements
  exact Keeps.bind (Keeps.set restored) fun _ => Keeps.ofExcept _

variable [Scalar α]

theorem keeps_muster (movements : List (UnitId × Hex)) (plan : Plan α) :
    (muster movements plan : Planner α ρ (Plan α × List Combatant)).Keeps field := by
  induction movements generalizing plan with
  | nil => exact Keeps.pure _
  | cons movement others ih =>
      unfold muster
      apply Keeps.bind (keeps_cover _)
      intro cover
      apply Keeps.get_bind
      intro context found
      apply Keeps.bind (Keeps.ofExcept _)
      intro unit
      exact Keeps.bind (ih _) fun mustered => Keeps.pure _

variable [RollSource ρ]

theorem keeps_tally (assaults : List Assault) (target : Vitals) (trials : Nat) :
    (tally assaults target trials : Planner α ρ (Tally α)).Keeps field := by
  apply Keeps.get_bind
  intro context found
  exact Keeps.bind (Keeps.set found) fun _ => Keeps.pure _

theorem keeps_analyze (consistent : field.roster.Consistent) (plan : Plan α) :
    (plan.analyze : Planner α ρ (Plan α)).Keeps field := by
  apply Keeps.get_bind
  intro context found
  apply Keeps.bind (Keeps.ofExcept _)
  intro target
  apply Keeps.bind (keeps_muster _ _)
  intro (mustered, units)
  apply Keeps.bind (keeps_inFormation consistent _ _)
  intro choices
  exact Keeps.bind (keeps_tally _ _ _) fun tally => Keeps.pure _

end Plan

namespace Search

open Planner

variable [Scalar α]

theorem keeps_consider {assess : Plan α → Planner α ρ (Plan α)}
    {deepen : α → Progress α → Planner α ρ (Progress α)}
    (assessing : ∀ plan, (assess plan).Keeps field)
    (deepening : ∀ current progress, (deepen current progress).Keeps field) (toExceed : α)
    (progress : Progress α) (position : Nat) :
    (consider assess deepen toExceed progress position).Keeps field := by
  unfold consider
  cases progress.draft.pool[position]? with
  | none => exact Keeps.pure progress
  | some id =>
      apply Keeps.get_bind
      intro context found
      apply Keeps.bind (Keeps.ofExcept _)
      intro unit
      by_cases barred : (!mayJoin unit progress.draft.depth) = true
      · rw [if_pos barred]
        exact Keeps.pure progress
      · rw [if_neg barred]
        cases Approach.best? context id unit progress.draft.plan.targetHex
            progress.draft.taken with
        | none => exact Keeps.pure progress
        | some approach =>
            apply Keeps.bind (assessing _)
            intro plan
            by_cases exceeds : toExceed < plan.rating
            · simp only [if_pos exceeds]
              exact Keeps.bind (deepening _ _) fun grown => Keeps.pure _
            · simp only [if_neg exceeds]
              exact Keeps.bind (Keeps.pure _) fun joined => Keeps.pure _

theorem keeps_grow {assess : Plan α → Planner α ρ (Plan α)}
    (assessing : ∀ plan, (assess plan).Keeps field) (attackers : Nat) (current : α)
    (progress : Progress α) : (grow assess attackers current progress).Keeps field := by
  induction attackers generalizing current progress with
  | zero => exact Keeps.pure progress
  | succ attackers ih =>
      apply Keeps.foldlM
      intro state position _
      exact keeps_consider assessing ih _ state position

variable [RollSource ρ]

theorem keeps_assess (consistent : field.roster.Consistent) (plan : Plan α) :
    (assess plan : Planner α ρ (Plan α)).Keeps field := by
  apply Keeps.bind (Plan.keeps_analyze consistent plan)
  intro analysed
  apply Keeps.get_bind
  intro context found
  exact Keeps.bind (Keeps.ofExcept _) fun rating => Keeps.pure _

theorem keeps_attacksOn (consistent : field.roster.Consistent) (target : UnitId)
    (candidates : List UnitId) :
    (attacksOn target candidates : Planner α ρ (List (Plan α))).Keeps field := by
  intro context found
  unfold Planner.after
  rw [attacksOn_apply]
  by_cases noOne : candidates.isEmpty = true
  · rw [if_pos noOne]
    exact found
  · rw [if_neg noOne]
    cases context.field.unit target with
    | error fault => exact found
    | ok unit =>
        simp only
        by_cases tooDeep : ratingsLimit ≤ context.personality.attackDepth + 1
        · rw [if_pos tooDeep]
          exact found
        · rw [if_neg tooDeep]
          apply Keeps.bind (keeps_grow (keeps_assess consistent) _ _ _) _ context found
          exact fun grown => Keeps.pure _

theorem keeps_attacks (consistent : field.roster.Consistent) :
    (attacks : Planner α ρ (List (Plan α))).Keeps field := by
  apply Keeps.get_bind
  intro context found
  by_cases noOne : (activeAnd context.field Combatant.canInitiate
      (context.field.unitsOf context.side)).isEmpty = true
  · simp only [if_pos noOne]
    exact Keeps.pure []
  · simp only [if_neg noOne]
    apply Keeps.bind
    · apply Keeps.mapM
      exact fun target _ => keeps_attacksOn consistent target _
    · exact fun plans => Keeps.pure _

theorem keeps_bestAttack (consistent : field.roster.Consistent) :
    (bestAttack : Planner α ρ (Option (Plan α))).Keeps field :=
  Keeps.bind (keeps_attacks consistent) fun _ => Keeps.pure _

/-- On a consistent roster the field after planning is the field before, roster and index included:
whatever the target and the candidates are, and whether planning succeeds or fails. -/
theorem field_after_planning (context : Context α ρ)
    (consistent : context.field.roster.Consistent) :
    (∀ target candidates,
        ((attacksOn target candidates : Planner α ρ (List (Plan α))).after context).field =
          context.field) ∧
      ((attacks : Planner α ρ (List (Plan α))).after context).field = context.field ∧
      ((bestAttack : Planner α ρ (Option (Plan α))).after context).field = context.field := by
  refine ⟨?_, ?_, ?_⟩
  · exact fun target candidates => keeps_attacksOn consistent target candidates context rfl
  · exact keeps_attacks consistent context rfl
  · exact keeps_bestAttack consistent context rfl

theorem field_after_planning_skirmish :
    (∀ target candidates,
        ((attacksOn target candidates : Planner Float (List Roll) _).after .skirmish).field =
          .skirmish) ∧
      ((attacks : Planner Float (List Roll) _).after .skirmish).field = .skirmish ∧
      ((bestAttack : Planner Float (List Roll) _).after .skirmish).field = .skirmish :=
  field_after_planning Context.skirmish Battlefield.consistent_skirmish

end Search
end Hexfield
