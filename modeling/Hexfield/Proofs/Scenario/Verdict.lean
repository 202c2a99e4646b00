import Hexfield.Fault

namespace Hexfield

/-!
Chains of checks, the first of which that fails decides the answer.

Everything that is checked gets the list of all objections to it, in the order of the checks.  A
verdict says of a chain of checks that it comes to its end exactly when there is no objection, and
fails with the first objection otherwise.  Verdicts of parts make up verdicts of the whole.
-/

/-- A chain of checks has a good result if there are no objections, and else fails with the first of
them. -/
def Verdict {α : Type} (result : Except Fault α) (objections : List Fault) (Good : α → Prop) :
    Prop :=
  match result with
  | .ok value => objections = [] ∧ Good value
  | .error fault => objections.head? = some fault

/-- One objection, if there is reason for it. -/
def objection (reason : Prop) [Decidable reason] (fault : Fault) : List Fault :=
  if reason then [fault] else []

@[simp] theorem objection_eq_nil_iff {reason : Prop} [Decidable reason] {fault : Fault} :
    objection reason fault = [] ↔ ¬ reason := by
  unfold objection
  split <;> simp_all

theorem objection_congr {first second : Prop} [Decidable first] [Decidable second]
    (same : first ↔ second) (fault : Fault) : objection first fault = objection second fault := by
  unfold objection
  simp only [same]

/-- The objections to the entries of a list, one by one, each with regard to those before it. -/
def objectionsAlong {ε : Type} (objections : List ε → ε → List Fault) (earlier : List ε) :
    List ε → List Fault
  | [] => []
  | entry :: rest =>
      objections earlier entry ++ objectionsAlong objections (earlier ++ [entry]) rest

/-- Where an objection does not depend on the entries before, it is one to the entry alone. -/
theorem objectionsAlong_const {ε : Type} (objections : ε → List Fault) (earlier entries : List ε) :
    objectionsAlong (fun _ => objections) earlier entries = entries.flatMap objections := by
  induction entries generalizing earlier with
  | nil => rfl
  | cons first rest ih => rw [objectionsAlong, ih, List.flatMap_cons]

namespace Verdict

variable {α β ε : Type} {result : Except Fault α} {objections later : List Fault}
  {Good : α → Prop} {Better : β → Prop}

theorem pure {value : α} (good : Good value) : Verdict (Pure.pure value) [] Good :=
  ⟨rfl, good⟩

/-- A check that objects for one reason. -/
theorem guard {reason : Prop} [Decidable reason] {fault : Fault} {value : α}
    (good : ¬ reason → Good value) :
    Verdict (if reason then .error fault else .ok value) (objection reason fault) Good := by
  unfold objection
  split
  · exact rfl
  · rename_i without
    exact ⟨rfl, good without⟩

/-- A check that goes on under a condition. -/
theorem require {condition : Prop} [Decidable condition] {fault : Fault}
    (verdict : condition → Verdict result later Good) :
    Verdict (if condition then result else .error fault) (objection (¬ condition) fault ++ later)
      Good := by
  unfold objection
  by_cases holds : condition
  · rw [if_pos holds, if_neg (not_not_intro holds)]
    exact verdict holds
  · rw [if_neg holds, if_pos holds]
    exact rfl

theorem itself (verdict : Verdict result objections Good) :
    Verdict result objections fun value => result = .ok value := by
  cases result with
  | ok value => exact ⟨verdict.1, rfl⟩
  | error fault => exact verdict

/-- Objections to the first part come before objections to the second. -/
theorem bind {next : α → Except Fault β} (verdict : Verdict result objections Good)
    (rest : ∀ value, Good value → Verdict (next value) later Better) :
    Verdict (result >>= next) (objections ++ later) Better := by
  cases result with
  | ok value =>
      rcases verdict with ⟨rfl, good⟩
      exact rest value good
  | error fault =>
      rcases List.head?_eq_some_iff.mp verdict with ⟨others, rfl⟩
      exact rfl

theorem map {change : α → β} (verdict : Verdict result objections Good)
    (better : ∀ value, Good value → Better (change value)) :
    Verdict (result.map change) objections Better := by
  cases result with
  | ok value => exact ⟨verdict.1, better value verdict.2⟩
  | error fault => exact verdict

/-- A chain along a list, where what is good depends on the entries so far. -/
theorem foldlM {step : α → ε → Except Fault α} {objections : List ε → ε → List Fault}
    {Good : List ε → α → Prop}
    (each : ∀ earlier entry value, Good earlier value →
      Verdict (step value entry) (objections earlier entry) (Good (earlier ++ [entry])))
    (entries earlier : List ε) {start : α} (good : Good earlier start) :
    Verdict (entries.foldlM step start) (objectionsAlong objections earlier entries)
      (Good (earlier ++ entries)) := by
  induction entries generalizing earlier start with
  | nil =>
      rw [List.append_nil]
      exact Verdict.pure good
  | cons entry rest ih =>
      rw [List.foldlM_cons, objectionsAlong, List.append_cons earlier entry rest]
      exact (each earlier entry start good).bind fun value good => ih (earlier ++ [entry]) good

/-- A chain of checks succeeds exactly if there is no objection. -/
theorem exists_ok_iff (verdict : Verdict result objections Good) :
    (∃ value, result = .ok value) ↔ objections = [] := by
  cases result with
  | ok value => exact ⟨fun _ => verdict.1, fun _ => ⟨value, rfl⟩⟩
  | error fault =>
      rcases List.head?_eq_some_iff.mp verdict with ⟨others, rfl⟩
      simp

/-- A chain of checks fails exactly with the first objection. -/
theorem error_iff (verdict : Verdict result objections Good) (fault : Fault) :
    result = .error fault ↔ objections.head? = some fault := by
  cases result with
  | ok value =>
      rcases verdict with ⟨rfl, -⟩
      simp
  | error found =>
      rw [verdict, Except.error.injEq, Option.some.injEq]

theorem good_of_ok (verdict : Verdict result objections Good) {value : α}
    (succeeded : result = .ok value) : Good value := by
  subst succeeded
  exact verdict.2

end Verdict
end Hexfield
