import Hexfield.Proofs.Plan.Planner
import Hexfield.Plan.Search

namespace Hexfield
namespace Search

/-!
A search that keeps a log of the plans it assesses.

The findings of a search do not tell how they came about: a plan that was recorded may have been
dropped since, and one that was not recorded leaves no trace.  The logged search takes the very
steps of the search and notes each plan that is assessed, together with what became of it.  A run of
it is a run of the search once the log is forgotten, failures included, and on a failure the log
tells how far the search got.
-/

/-- A plan that was assessed, and whether it was then recorded. -/
structure Visit (α : Type) where
  plan : Plan α
  recorded : Bool

/-- Planning with a log of the plans that have been assessed, the latest one last. -/
abbrev LoggedPlanner (α ρ : Type) := EStateM Fault (Context α ρ × List (Visit α))

def forget {α ρ β : Type} :
    EStateM.Result Fault (Context α ρ × List (Visit α)) β → EStateM.Result Fault (Context α ρ) β
  | .ok value state => .ok value state.1
  | .error fault state => .error fault state.1

namespace LoggedPlanner

variable {α ρ β γ : Type}

/-- A planner that assesses no plan for the log. -/
def ofPlanner (planner : Planner α ρ β) : LoggedPlanner α ρ β := fun state =>
  match planner state.1 with
  | .ok value context => .ok value (context, state.2)
  | .error fault context => .error fault (context, state.2)

def note (visit : Visit α) : LoggedPlanner α ρ Unit :=
  modify fun state => (state.1, state.2 ++ [visit])

/-- The log that a run leaves behind, also when it fails. -/
def visits (planner : LoggedPlanner α ρ β) (context : Context α ρ) : List (Visit α) :=
  match planner (context, []) with
  | .ok _ state => state.2
  | .error _ state => state.2

/-- A logged planner takes the steps of a planner, whatever has been logged before. -/
def Shadows (logged : LoggedPlanner α ρ β) (planner : Planner α ρ β) : Prop :=
  ∀ state, forget (logged state) = planner state.1

namespace Shadows

theorem ofPlanner (planner : Planner α ρ β) :
    (LoggedPlanner.ofPlanner planner).Shadows planner := by
  intro state
  unfold LoggedPlanner.ofPlanner
  cases planner state.1 <;> rfl

theorem pure (value : β) : (pure value : LoggedPlanner α ρ β).Shadows (pure value) :=
  fun _ => rfl

theorem throw (fault : Fault) : (throw fault : LoggedPlanner α ρ β).Shadows (throw fault) :=
  fun _ => rfl

theorem bind {logged : LoggedPlanner α ρ β} {planner : Planner α ρ β}
    {next : β → LoggedPlanner α ρ γ} {next' : β → Planner α ρ γ} (first : logged.Shadows planner)
    (others : ∀ value, (next value).Shadows (next' value)) :
    (logged >>= next).Shadows (planner >>= next') := by
  intro state
  simp only [Bind.bind, EStateM.bind, ← first state]
  cases logged state with
  | ok value state => exact others value state
  | error fault state => rfl

theorem note_bind {visit : Visit α} {next : Unit → LoggedPlanner α ρ γ} {planner : Planner α ρ γ}
    (others : (next ()).Shadows planner) : (note visit >>= next).Shadows planner :=
  fun state => others (state.1, state.2 ++ [visit])

theorem foldlM {step : γ → β → LoggedPlanner α ρ γ} {step' : γ → β → Planner α ρ γ}
    (each : ∀ state value, (step state value).Shadows (step' state value)) (values : List β)
    (start : γ) : (values.foldlM step start).Shadows (values.foldlM step' start) := by
  induction values generalizing start with
  | nil => exact pure start
  | cons value values ih =>
      rw [List.foldlM_cons, List.foldlM_cons]
      exact bind (each start value) ih

end Shadows

/-- A run from a state leaves a result and a log as wanted, or fails with a log that is no loss. -/
def Leads (planner : LoggedPlanner α ρ β) (state : Context α ρ × List (Visit α))
    (wanted : β → List (Visit α) → Prop) (lost : List (Visit α) → Prop) : Prop :=
  match planner state with
  | .ok value now => wanted value now.2
  | .error _ now => lost now.2

namespace Leads

variable {state : Context α ρ × List (Visit α)} {wanted : β → List (Visit α) → Prop}
  {wanted' : γ → List (Visit α) → Prop} {lost : List (Visit α) → Prop}

theorem pure {value : β} (good : wanted value state.2) :
    Leads (pure value : LoggedPlanner α ρ β) state wanted lost :=
  good

theorem bind {planner : LoggedPlanner α ρ β} {next : β → LoggedPlanner α ρ γ}
    (first : planner.Leads state wanted lost)
    (others : ∀ value context visits, wanted value visits →
      (next value).Leads (context, visits) wanted' lost) :
    (planner >>= next).Leads state wanted' lost := by
  unfold Leads at first ⊢
  simp only [Bind.bind, EStateM.bind]
  cases outcome : planner state with
  | ok value now =>
      rw [outcome] at first
      exact others value now.1 now.2 first
  | error fault now =>
      rw [outcome] at first
      exact first

theorem mono {planner : LoggedPlanner α ρ β} {stronger : β → List (Visit α) → Prop}
    {strongerLost : List (Visit α) → Prop} (leads : planner.Leads state stronger strongerLost)
    (weaker : ∀ value visits, stronger value visits → wanted value visits)
    (weakerLost : ∀ visits, strongerLost visits → lost visits) :
    planner.Leads state wanted lost := by
  unfold Leads at leads ⊢
  cases outcome : planner state with
  | ok value now =>
      rw [outcome] at leads
      exact weaker value now.2 leads
  | error fault now =>
      rw [outcome] at leads
      exact weakerLost now.2 leads

/-- A planner adds nothing to the log, and of its result is known what it yields. -/
theorem ofPlanner_bind {planner : Planner α ρ β} {yielded : β → Prop}
    {next : β → LoggedPlanner α ρ γ} (unlost : lost state.2) (yields : planner.Yields yielded)
    (others : ∀ value context, yielded value →
      (next value).Leads (context, state.2) wanted' lost) :
    (ofPlanner planner >>= next).Leads state wanted' lost := by
  unfold Leads
  simp only [Bind.bind, EStateM.bind, ofPlanner]
  cases outcome : planner state.1 with
  | ok value context => exact others value context (yields state.1 value context outcome)
  | error fault context => exact unlost

/-- Where nothing depends on the result of the planner. -/
theorem ofPlanner_bind_any {planner : Planner α ρ β} {next : β → LoggedPlanner α ρ γ}
    (unlost : lost state.2)
    (others : ∀ value context, (next value).Leads (context, state.2) wanted' lost) :
    (ofPlanner planner >>= next).Leads state wanted' lost := by
  have yields : planner.Yields fun _ => True := fun _ _ _ _ => trivial
  exact ofPlanner_bind unlost yields fun value context _ => others value context

theorem note_bind {visit : Visit α} {next : Unit → LoggedPlanner α ρ γ}
    (others : (next ()).Leads (state.1, state.2 ++ [visit]) wanted' lost) :
    (note visit >>= next).Leads state wanted' lost :=
  others

/-- What is so of the log however a run ends is so of the log that it leaves behind. -/
theorem of_visits {planner : LoggedPlanner α ρ β} {context : Context α ρ}
    (leads : planner.Leads (context, []) (fun _ visits => lost visits) lost) :
    lost (planner.visits context) := by
  unfold Leads at leads
  unfold visits
  cases outcome : planner (context, []) with
  | ok value now =>
      rw [outcome] at leads
      exact leads
  | error fault now =>
      rw [outcome] at leads
      exact leads

/-- If the planner succeeds whose steps are taken, its result and the log are as wanted. -/
theorem of_returned {logged : LoggedPlanner α ρ β} {planner : Planner α ρ β}
    {context after : Context α ρ} {value : β} (leads : logged.Leads (context, []) wanted lost)
    (shadows : logged.Shadows planner) (returned : planner context = .ok value after) :
    wanted value (logged.visits context) := by
  have same := shadows (context, [])
  unfold Leads at leads
  unfold visits
  cases outcome : logged (context, []) with
  | ok result now =>
      rw [outcome] at leads
      rw [outcome, returned] at same
      cases same
      exact leads
  | error fault now =>
      rw [outcome, returned] at same
      cases same

end Leads
end LoggedPlanner

open LoggedPlanner

variable {α ρ : Type} [Scalar α]

/-! ## The search and its log -/

/-- An attacker joins and leaves again; the plan assessed in between is noted. -/
def considerLogged (assess : Plan α → Planner α ρ (Plan α))
    (deepen : α → Progress α → LoggedPlanner α ρ (Progress α)) (toExceed : α)
    (progress : Progress α) (position : Nat) : LoggedPlanner α ρ (Progress α) := do
  match progress.draft.pool[position]? with
  | none => pure progress
  | some id =>
      let context ← ofPlanner get
      let unit ← ofPlanner (ofExcept (context.field.unit id))
      if !mayJoin unit progress.draft.depth then pure progress
      else
        match Approach.best? context id unit progress.draft.plan.targetHex
            progress.draft.taken with
        | none => pure progress
        | some approach =>
            let (draft, commitment) := progress.draft.commit position id approach
            let plan ← ofPlanner (assess draft.plan)
            let joined : Progress α := { progress with draft := { draft with plan } }
            let after ←
              if toExceed < plan.rating then do
                note { plan, recorded := true }
                let limit := context.personality.maxResults
                deepen plan.rating
                  { joined with findings := joined.findings.record limit plan }
              else do
                note { plan, recorded := false }
                pure joined
            pure { after with draft := after.draft.release commitment }

/-- A plan is grown in every way, and every plan assessed on the way is noted. -/
def growLogged (assess : Plan α → Planner α ρ (Plan α)) :
    (attackers : Nat) → α → Progress α → LoggedPlanner α ρ (Progress α)
  | 0, _, progress => pure progress
  | attackers + 1, current, progress =>
      let (toExceed, findings) := progress.findings.toExceed progress.draft.depth current
      (List.range progress.draft.pool.length).foldlM
        (considerLogged assess (growLogged assess attackers) toExceed) { progress with findings }

/-- The plans against a target, and the log of how they were found. -/
def attacksOnLogged [RollSource ρ] (target : UnitId) (candidates : List UnitId) :
    LoggedPlanner α ρ (List (Plan α)) :=
  if candidates.isEmpty then throw (.noCandidates target)
  else do
    let context ← ofPlanner get
    let unit ← ofPlanner (ofExcept (context.field.unit target))
    let depth := context.personality.attackDepth
    if ratingsLimit ≤ depth + 1 then throw (.tooDeep depth)
    else do
      let progress ← growLogged assess depth Plan.rejected
        { draft := Draft.against target unit.hex candidates, findings := {} }
      pure (ranked progress.findings.plans)

theorem shadows_considerLogged {assess : Plan α → Planner α ρ (Plan α)}
    {deepen : α → Progress α → LoggedPlanner α ρ (Progress α)}
    {deepen' : α → Progress α → Planner α ρ (Progress α)}
    (deepening : ∀ current progress, (deepen current progress).Shadows (deepen' current progress))
    (toExceed : α) (progress : Progress α) (position : Nat) :
    (considerLogged assess deepen toExceed progress position).Shadows
      (consider assess deepen' toExceed progress position) := by
  unfold considerLogged consider
  cases progress.draft.pool[position]? with
  | none => exact Shadows.pure progress
  | some id =>
      apply Shadows.bind (Shadows.ofPlanner _)
      intro context
      apply Shadows.bind (Shadows.ofPlanner _)
      intro unit
      by_cases barred : (!mayJoin unit progress.draft.depth) = true
      · simp only [if_pos barred]
        exact Shadows.pure progress
      · simp only [if_neg barred]
        cases Approach.best? context id unit progress.draft.plan.targetHex
            progress.draft.taken with
        | none => exact Shadows.pure progress
        | some approach =>
            apply Shadows.bind (Shadows.ofPlanner _)
            intro plan
            by_cases exceeds : toExceed < plan.rating
            · simp only [if_pos exceeds]
              exact Shadows.note_bind (Shadows.bind (deepening _ _) fun after => Shadows.pure _)
            · simp only [if_neg exceeds]
              exact Shadows.note_bind (Shadows.bind (Shadows.pure _) fun after => Shadows.pure _)

theorem shadows_growLogged (assess : Plan α → Planner α ρ (Plan α)) (attackers : Nat)
    (current : α) (progress : Progress α) :
    (growLogged assess attackers current progress).Shadows
      (grow assess attackers current progress) := by
  induction attackers generalizing current progress with
  | zero => exact Shadows.pure progress
  | succ attackers ih => exact Shadows.foldlM (shadows_considerLogged ih _) _ _

theorem shadows_attacksOnLogged [RollSource ρ] (target : UnitId) (candidates : List UnitId) :
    (attacksOnLogged target candidates : LoggedPlanner α ρ (List (Plan α))).Shadows
      (attacksOn target candidates) := by
  intro state
  rw [attacksOn_apply]
  unfold attacksOnLogged
  by_cases noOne : candidates.isEmpty = true
  · rw [if_pos noOne, if_pos noOne]
    rfl
  · rw [if_neg noOne, if_neg noOne]
    change forget (EStateM.bind (ofPlanner (ofExcept (state.1.field.unit target))) _ state) = _
    cases found : state.1.field.unit target with
    | error fault => rfl
    | ok unit =>
        by_cases tooDeep : ratingsLimit ≤ state.1.personality.attackDepth + 1
        · simp only [if_pos tooDeep, EStateM.bind, ofPlanner, ofExcept]
          rfl
        · simp only [if_neg tooDeep]
          exact Shadows.bind (shadows_growLogged _ _ _ _) (fun after => Shadows.pure _) state

end Search
end Hexfield
