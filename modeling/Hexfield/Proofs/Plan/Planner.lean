import Hexfield.Plan.Context

namespace Hexfield
namespace Planner

/-!
What can be said of a planner as a whole.

`Keeps` is about every run: whatever comes of it, the field that was found is
the field that is left, and a run that fails is no exception.  `Ensures` is about one run: it
succeeds, and its result is as wanted.  Both are put together along the steps of a planner, so that
nothing has to be known of a step but what it keeps or ensures.  Between the two stands `Yields`,
about the results of those runs that succeed.  `Alike` is about two runs that are made side by side
on contexts that need not be the same.
-/

variable {α ρ β γ : Type}

def after (planner : Planner α ρ β) (context : Context α ρ) : Context α ρ :=
  match planner context with
  | .ok _ context => context
  | .error _ context => context

/-- What comes of a planner: its result, or the fault it fails with. -/
def outcome (planner : Planner α ρ β) (context : Context α ρ) : Except Fault β :=
  match planner context with
  | .ok value _ => .ok value
  | .error fault _ => .error fault

theorem get_bind_apply (next : Context α ρ → Planner α ρ β) (context : Context α ρ) :
    (get >>= next) context = next context context :=
  rfl

/-- A planner that finds this field leaves it as it was, also when it fails. -/
def Keeps (field : Battlefield) (planner : Planner α ρ β) : Prop :=
  ∀ context, context.field = field → (planner.after context).field = field

/-- A planner succeeds on a context, and then its result and the context are as wanted. -/
def Ensures (planner : Planner α ρ β) (context : Context α ρ)
    (wanted : β → Context α ρ → Prop) : Prop :=
  ∃ value now, planner context = .ok value now ∧ wanted value now

namespace Keeps

variable {field : Battlefield}

theorem pure (value : β) : (pure value : Planner α ρ β).Keeps field :=
  fun _ found => found

theorem throw (fault : Fault) : (throw fault : Planner α ρ β).Keeps field :=
  fun _ found => found

theorem ofExcept (answer : Except Fault β) : (ofExcept answer : Planner α ρ β).Keeps field := by
  cases answer with
  | error fault => exact throw fault
  | ok value => exact pure value

theorem bind {planner : Planner α ρ β} {next : β → Planner α ρ γ} (first : planner.Keeps field)
    (others : ∀ value, (next value).Keeps field) : (planner >>= next).Keeps field := by
  intro context found
  have kept := first context found
  unfold after at kept ⊢
  simp only [Bind.bind, EStateM.bind]
  cases outcome : planner context with
  | ok value now =>
      rw [outcome] at kept
      exact others value now kept
  | error fault now =>
      rw [outcome] at kept
      exact kept

/-- A planner that looks at its context knows the field that it finds. -/
theorem get_bind {next : Context α ρ → Planner α ρ γ}
    (others : ∀ context : Context α ρ, context.field = field → (next context).Keeps field) :
    (get >>= next).Keeps field :=
  fun context found => others context found context found

theorem set {context : Context α ρ} (found : context.field = field) :
    (set context : Planner α ρ Unit).Keeps field :=
  fun _ _ => found

theorem foldlM {step : γ → β → Planner α ρ γ} (values : List β)
    (each : ∀ state, ∀ value ∈ values, (step state value).Keeps field) (start : γ) :
    (values.foldlM step start).Keeps field := by
  induction values generalizing start with
  | nil => exact pure start
  | cons value values ih =>
      rw [List.foldlM_cons]
      apply bind
      · exact each start value (List.mem_cons_self ..)
      · exact ih fun state other member => each state other (List.mem_cons_of_mem _ member)

theorem mapM {step : β → Planner α ρ γ} (values : List β)
    (each : ∀ value ∈ values, (step value).Keeps field) : (values.mapM step).Keeps field := by
  induction values with
  | nil => exact pure []
  | cons value values ih =>
      rw [List.mapM_cons]
      apply bind (each value (List.mem_cons_self ..))
      intro result
      apply bind (ih fun other member => each other (List.mem_cons_of_mem _ member))
      exact fun results => pure (result :: results)

end Keeps

namespace Ensures

variable {context : Context α ρ} {wanted : β → Context α ρ → Prop}

theorem pure {value : β} (good : wanted value context) :
    (pure value : Planner α ρ β).Ensures context wanted :=
  ⟨value, context, rfl, good⟩

theorem bind {planner : Planner α ρ β} {next : β → Planner α ρ γ}
    {wanted' : γ → Context α ρ → Prop} (first : planner.Ensures context wanted)
    (others : ∀ value now, wanted value now → (next value).Ensures now wanted') :
    (planner >>= next).Ensures context wanted' := by
  rcases first with ⟨value, now, outcome, good⟩
  rcases others value now good with ⟨result, final, outcome', good'⟩
  refine ⟨result, final, ?_, good'⟩
  simp only [Bind.bind, EStateM.bind, outcome]
  exact outcome'

theorem mono {planner : Planner α ρ β} {wanted' : β → Context α ρ → Prop}
    (ensured : planner.Ensures context wanted)
    (weaker : ∀ value now, wanted value now → wanted' value now) :
    planner.Ensures context wanted' := by
  rcases ensured with ⟨value, now, outcome, good⟩
  exact ⟨value, now, outcome, weaker value now good⟩

/-! The steps that reveal the context, answer a question or replace the context. -/

section

variable {wanted' : γ → Context α ρ → Prop}

theorem get_bind {next : Context α ρ → Planner α ρ γ}
    (others : (next context).Ensures context wanted') : (get >>= next).Ensures context wanted' :=
  others

theorem set_bind {now : Context α ρ} {next : Unit → Planner α ρ γ}
    (others : (next ()).Ensures now wanted') : (set now >>= next).Ensures context wanted' :=
  others

theorem ofExcept_bind {answer : Except Fault β} {value : β} {next : β → Planner α ρ γ}
    (answered : answer = .ok value) (others : (next value).Ensures context wanted') :
    (ofExcept answer >>= next).Ensures context wanted' := by
  subst answered
  exact others

end

end Ensures

/-- Whenever a planner succeeds, its result is as wanted. -/
def Yields (planner : Planner α ρ β) (wanted : β → Prop) : Prop :=
  ∀ context value now, planner context = .ok value now → wanted value

namespace Yields

variable {wanted : β → Prop} {wanted' : γ → Prop}

theorem pure {value : β} (good : wanted value) : (pure value : Planner α ρ β).Yields wanted := by
  rintro context _ _ ⟨⟩
  exact good

theorem bind {planner : Planner α ρ β} {next : β → Planner α ρ γ} (first : planner.Yields wanted)
    (others : ∀ value, wanted value → (next value).Yields wanted') :
    (planner >>= next).Yields wanted' := by
  intro context result final outcome
  simp only [Bind.bind, EStateM.bind] at outcome
  cases step : planner context with
  | ok value now =>
      rw [step] at outcome
      exact others value (first context value now step) now result final outcome
  | error fault now =>
      rw [step] at outcome
      cases outcome

/-- Where nothing depends on the result of the first step. -/
theorem bind_any {planner : Planner α ρ β} {next : β → Planner α ρ γ}
    (others : ∀ value, (next value).Yields wanted') : (planner >>= next).Yields wanted' := by
  have first : planner.Yields fun _ => True := fun _ _ _ _ => trivial
  exact bind first fun value _ => others value

end Yields

/-- Two runs come to the same result, which is as wanted, or they fail with the same fault; either
way they leave related contexts behind. -/
inductive Alike (related : Context α ρ → Context α ρ → Prop) (wanted : β → Prop) :
    EStateM.Result Fault (Context α ρ) β → EStateM.Result Fault (Context α ρ) β → Prop
  | ok {value : β} {now now' : Context α ρ} (good : wanted value) (twins : related now now') :
      Alike related wanted (.ok value now) (.ok value now')
  | error {fault : Fault} {now now' : Context α ρ} (twins : related now now') :
      Alike related wanted (.error fault now) (.error fault now')

namespace Alike

variable {related : Context α ρ → Context α ρ → Prop} {now now' : Context α ρ}

theorem ofExcept (twins : related now now') (answer : Except Fault β) :
    Alike related (fun value => answer = .ok value)
      ((ofExcept answer : Planner α ρ β) now) ((ofExcept answer : Planner α ρ β) now') := by
  cases answer with
  | error fault => exact error twins
  | ok value => exact ok rfl twins

/-- Each of two planners looks at its own context. -/
theorem get_bind {next next' : Context α ρ → Planner α ρ γ} {wanted : γ → Prop}
    (others : Alike related wanted (next now now) (next' now' now')) :
    Alike related wanted ((get >>= next) now) ((get >>= next') now') :=
  others

theorem bind {planner planner' : Planner α ρ β} {next next' : β → Planner α ρ γ}
    {wanted : β → Prop} {wanted' : γ → Prop}
    (first : Alike related wanted (planner now) (planner' now'))
    (others : ∀ {value now now'}, wanted value → related now now' →
      Alike related wanted' (next value now) (next' value now')) :
    Alike related wanted' ((planner >>= next) now) ((planner' >>= next') now') := by
  simp only [Bind.bind, EStateM.bind]
  generalize planner now = run at first ⊢
  generalize planner' now' = run' at first ⊢
  cases first with
  | ok good twins => exact others good twins
  | error twins => exact error twins

theorem mono {wanted wanted' : β → Prop} {run run' : EStateM.Result Fault (Context α ρ) β}
    (alike : Alike related wanted run run') (weaker : ∀ value, wanted value → wanted' value) :
    Alike related wanted' run run' := by
  cases alike with
  | ok good twins => exact ok (weaker _ good) twins
  | error twins => exact error twins

theorem foldlM {step step' : γ → β → Planner α ρ γ} {wanted : γ → Prop}
    (each : ∀ {state value now now'}, wanted state → related now now' →
      Alike related wanted (step state value now) (step' state value now'))
    (values : List β) {start : γ} (good : wanted start) (twins : related now now') :
    Alike related wanted (values.foldlM step start now) (values.foldlM step' start now') := by
  induction values generalizing start now now' with
  | nil => exact ok good twins
  | cons value values ih =>
      rw [List.foldlM_cons, List.foldlM_cons]
      exact bind (each good twins) ih

theorem mapM {step step' : β → Planner α ρ γ} {wanted : γ → Prop}
    (each : ∀ value {now now'}, related now now' →
      Alike related wanted (step value now) (step' value now'))
    (values : List β) (twins : related now now') :
    Alike related (fun results => ∀ result ∈ results, wanted result)
      (values.mapM step now) (values.mapM step' now') := by
  induction values generalizing now now' with
  | nil => exact ok (by simp) twins
  | cons value values ih =>
      rw [List.mapM_cons, List.mapM_cons]
      apply bind (each value twins)
      intro result now now' good twins
      apply bind (ih twins)
      intro results now now' goods twins
      exact ok (List.forall_mem_cons.mpr ⟨good, goods⟩) twins

/-- The same comes of two planners whose runs are alike. -/
theorem outcome_eq {planner planner' : Planner α ρ β} {wanted : β → Prop}
    (alike : Alike related wanted (planner now) (planner' now')) :
    planner.outcome now = planner'.outcome now' := by
  unfold outcome
  generalize planner now = run at alike ⊢
  generalize planner' now' = run' at alike ⊢
  cases alike with
  | ok good twins => rfl
  | error twins => rfl

theorem related_after {planner planner' : Planner α ρ β} {wanted : β → Prop}
    (alike : Alike related wanted (planner now) (planner' now')) :
    related (planner.after now) (planner'.after now') := by
  unfold after
  generalize planner now = run at alike ⊢
  generalize planner' now' = run' at alike ⊢
  cases alike with
  | ok good twins => exact twins
  | error twins => exact twins

end Alike
end Planner
end Hexfield
