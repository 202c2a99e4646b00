import Hexfield.Proofs.Plan.Findings
import Mathlib.Data.List.Induction

namespace Hexfield
namespace Findings

/-!
Findings that keep the best plans of all that are recorded.

The findings have room for so many plans, and the worst is dropped whenever there is one too many.
It is looked for among the plans at hand only, not among all that were recorded.  That is enough: as
long as nothing has been dropped there is room for all, and from then on whatever was dropped rates
no higher than anything kept, so that a plan which stays rates at least as high as the one that goes
in its stead, and that one at least as high as all that went before.
-/

variable {α : Type} [Scalar α]

/-- The findings after plans have been recorded one after another. -/
def recordAll (limit : Nat) (plans : List (Plan α)) : Findings α :=
  plans.foldl (fun findings plan => findings.record limit plan) {}

theorem recordAll_concat (limit : Nat) (plans : List (Plan α)) (plan : Plan α) :
    recordAll limit (plans ++ [plan]) = (recordAll limit plans).record limit plan := by
  simp only [recordAll, List.foldl_append, List.foldl_cons, List.foldl_nil]

variable {limit : Nat} {plans recorded kept dropped : List (Plan α)} {plan worst : Plan α}

/-! ## The worst of some plans -/

section

variable [Scalar.Ordered α]

theorem worse_le {candidate : Plan α} (number : worst.rating ≤ worst.rating)
    (number' : candidate.rating ≤ candidate.rating) :
    (worse worst candidate).rating ≤ worst.rating ∧
      (worse worst candidate).rating ≤ candidate.rating := by
  unfold worse
  by_cases lower : candidate.rating < worst.rating
  · rw [if_pos lower]
    exact ⟨(Scalar.Ordered.lt_iff.mp lower).1, number'⟩
  · rw [if_neg lower]
    exact ⟨number, Scalar.Ordered.le_of_not_lt number number' lower⟩

/-- No plan rates lower than the one that is left after all comparisons. -/
theorem foldl_worse_le (number : worst.rating ≤ worst.rating)
    (numbers : ∀ plan ∈ plans, plan.rating ≤ plan.rating) :
    (plans.foldl worse worst).rating ≤ worst.rating ∧
      ∀ plan ∈ plans, (plans.foldl worse worst).rating ≤ plan.rating := by
  induction plans generalizing worst with
  | nil => exact ⟨number, fun _ member => absurd member List.not_mem_nil⟩
  | cons next plans ih =>
      rcases List.forall_mem_cons.mp numbers with ⟨number', numbers⟩
      rcases worse_le number number' with ⟨le, le'⟩
      rcases ih (Scalar.Ordered.numbers_of_le le).1 numbers with ⟨first, rest⟩
      exact ⟨Scalar.Ordered.le_trans first le,
        List.forall_mem_cons.mpr ⟨Scalar.Ordered.le_trans first le', rest⟩⟩

/-- One of the plans is dropped, and no other rates lower. -/
theorem exists_dropWorst (nonempty : plans ≠ [])
    (numbers : ∀ plan ∈ plans, plan.rating ≤ plan.rating) :
    ∃ before worst after, plans = before ++ worst :: after ∧
      dropWorst plans = before ++ after ∧ ∀ plan ∈ plans, worst.rating ≤ plan.rating := by
  cases plans with
  | nil => exact absurd rfl nonempty
  | cons first others =>
      rcases List.forall_mem_cons.mp numbers with ⟨number, numbers'⟩
      have lowest : ∀ plan ∈ first :: others,
          (others.foldl worse first).rating ≤ plan.rating :=
        List.forall_mem_cons.mpr (foldl_worse_le number numbers')
      rcases exists_split_dropWorst first others with ⟨before, worst, after, split, dropped, low⟩
      have member : worst ∈ first :: others := by
        rw [split]
        exact List.mem_append_right _ (List.mem_cons_self ..)
      have le : worst.rating ≤ (others.foldl worse first).rating :=
        Scalar.Ordered.le_of_not_lt (numbers worst member) (numbers _ (foldl_worse_mem ..)) low
      exact ⟨before, worst, after, split, dropped,
        fun plan listed => Scalar.Ordered.le_trans le (lowest plan listed)⟩

end

/-! ## What is kept of all that is recorded -/

/-- Of the plans recorded these were kept and those were dropped. -/
structure Shortlists (limit : Nat) (recorded kept dropped : List (Plan α)) : Prop where
  order : kept.Sublist recorded
  length : kept.length = min recorded.length limit
  rest : (kept ++ dropped).Perm recorded
  ranks : ∀ worse ∈ dropped, ∀ better ∈ kept, worse.rating ≤ better.rating

namespace Shortlists

theorem dropped_eq_nil (shortlists : Shortlists limit recorded kept dropped)
    (room : kept.length < limit) : dropped = [] := by
  have all := shortlists.rest.length_eq
  have length := shortlists.length
  rw [List.length_append] at all
  exact List.eq_nil_of_length_eq_zero (by omega)

theorem keep (shortlists : Shortlists limit recorded kept dropped) (room : kept.length < limit)
    (plan : Plan α) : Shortlists limit (recorded ++ [plan]) (kept ++ [plan]) dropped := by
  have nothing := shortlists.dropped_eq_nil room
  subst nothing
  have length := shortlists.length
  refine ⟨shortlists.order.append_right _, ?_, ?_, ?_⟩
  · simp only [List.length_append, List.length_singleton]
    omega
  · rw [List.append_nil]
    have rest := shortlists.rest
    rw [List.append_nil] at rest
    exact rest.append_right _
  · intro worse member
    cases member

theorem replace [Scalar.Ordered α] (shortlists : Shortlists limit recorded kept dropped)
    (full : kept.length = limit) {before after : List (Plan α)}
    (split : kept ++ [plan] = before ++ worst :: after)
    (lowest : ∀ other ∈ kept ++ [plan], worst.rating ≤ other.rating) :
    Shortlists limit (recorded ++ [plan]) (before ++ after) (worst :: dropped) := by
  have shorter : (before ++ after).Sublist (kept ++ [plan]) := by
    rw [split]
    exact (List.sublist_cons_self worst after).append_left before
  refine ⟨shorter.trans (shortlists.order.append_right _), ?_, ?_, ?_⟩
  · have length := shortlists.length
    have total := congrArg List.length split
    simp only [List.length_append, List.length_cons, List.length_nil] at total ⊢
    omega
  · have goes : (after ++ worst :: dropped).Perm (worst :: after ++ dropped) := List.perm_middle
    have waits : ([plan] ++ dropped).Perm (dropped ++ [plan]) := List.perm_append_comm
    calc
      List.Perm (before ++ after ++ worst :: dropped) (before ++ worst :: after ++ dropped) := by
        simpa using goes.append_left before
      List.Perm _ (kept ++ [plan] ++ dropped) := by rw [split]
      List.Perm _ (kept ++ dropped ++ [plan]) := by simpa using waits.append_left kept
      List.Perm _ (recorded ++ [plan]) := shortlists.rest.append_right _
  · intro lower member better listed
    rcases List.mem_cons.mp member with rfl | earlier
    · exact lowest better (shorter.subset listed)
    -- The one that goes is the new plan, or else it was kept while the others were dropped.
    rcases List.eq_nil_or_concat after with rfl | ⟨others, last, rfl⟩
    · rw [List.append_nil, ← (List.append_inj' split rfl).1] at listed
      exact shortlists.ranks lower earlier better listed
    · have stayed : worst ∈ kept := by
        rw [List.concat_eq_append, ← List.cons_append, ← List.append_assoc] at split
        rw [(List.append_inj' split rfl).1]
        exact List.mem_append_right _ (List.mem_cons_self ..)
      exact Scalar.Ordered.le_trans (shortlists.ranks lower earlier worst stayed)
        (lowest better (shorter.subset listed))

variable [Scalar.Ordered α] {findings : Findings α}

/-- Whether there is room or not, the plans kept are a shortlist of those recorded. -/
theorem record (shortlists : Shortlists limit recorded findings.plans dropped)
    (numbers : ∀ other ∈ recorded ++ [plan], other.rating ≤ other.rating) :
    ∃ dropped,
      Shortlists limit (recorded ++ [plan]) (findings.record limit plan).plans dropped := by
  have length : (findings.plans ++ [plan]).length = findings.plans.length + 1 := by simp
  unfold Findings.record
  simp only [length]
  by_cases room : findings.plans.length < limit
  · rw [if_neg (Nat.not_lt.mpr room)]
    exact ⟨dropped, shortlists.keep room plan⟩
  · rw [if_pos (by omega)]
    have full : findings.plans.length = limit := by
      have length := shortlists.length
      omega
    have among : (findings.plans ++ [plan]).Sublist (recorded ++ [plan]) :=
      shortlists.order.append_right [plan]
    rcases exists_dropWorst (List.concat_ne_nil plan findings.plans)
        (fun other member => numbers other (among.subset member)) with
      ⟨before, worst, after, split, left, lowest⟩
    rw [left]
    exact ⟨worst :: dropped, shortlists.replace full split lowest⟩

end Shortlists

/-- Whatever the plans are and in which order they come, the findings are a shortlist of them. -/
theorem exists_shortlists [Scalar.Ordered α]
    (numbers : ∀ plan ∈ plans, plan.rating ≤ plan.rating) :
    ∃ dropped, Shortlists limit plans (recordAll limit plans).plans dropped := by
  induction plans using List.reverseRecOn with
  | nil => exact ⟨[], List.Sublist.refl _, (Nat.zero_min limit).symm, List.Perm.refl _, by simp⟩
  | append_singleton plans plan ih =>
      rcases ih fun other member => numbers other (List.mem_append_left _ member) with
        ⟨dropped, shortlists⟩
      rw [recordAll_concat]
      exact shortlists.record numbers

/-- Findings with limited room keep the best of the plans recorded.

They keep them in the order in which they were recorded, as many as there is room for, and no plan
that was dropped rates higher than any that is kept. -/
theorem recordAll_keeps_best [Scalar.Ordered α] (limit : Nat) {plans : List (Plan α)}
    (numbers : ∀ plan ∈ plans, plan.rating ≤ plan.rating) :
    let kept := (recordAll limit plans).plans
    kept.Sublist plans ∧ kept.length = min plans.length limit ∧
      ∃ dropped, (kept ++ dropped).Perm plans ∧
        ∀ worse ∈ dropped, ∀ better ∈ kept, worse.rating ≤ better.rating := by
  intro kept
  rcases exists_shortlists numbers with ⟨dropped, shortlists⟩
  exact ⟨shortlists.order, shortlists.length, dropped, shortlists.rest, shortlists.ranks⟩

/-- Plans that differ by their ratings only. -/
def rated (ratings : List Float) : List (Plan Float) :=
  ratings.map fun rating => { Plan.against ⟨0⟩ ⟨0, 0⟩ with rating }

/-- With room for two, the better ones are kept of four plans; of the two that rate alike it is the
later one that stays. -/
theorem recordAll_keeps_best_four :
    (∀ plan ∈ rated [2.0, 1.0, 3.0, 2.0], plan.rating ≤ plan.rating) ∧
      (recordAll 2 (rated [2.0, 1.0, 3.0, 2.0])).plans = rated [3.0, 2.0] ∧
      (rated [3.0, 2.0]).Sublist (rated [2.0, 1.0, 3.0, 2.0]) ∧
      (rated [3.0, 2.0]).length = min (rated [2.0, 1.0, 3.0, 2.0]).length 2 ∧
      ∃ dropped, (rated [3.0, 2.0] ++ dropped).Perm (rated [2.0, 1.0, 3.0, 2.0]) ∧
        ∀ worse ∈ dropped, ∀ better ∈ rated [3.0, 2.0], worse.rating ≤ better.rating := by
  have numbers : ∀ plan ∈ rated [2.0, 1.0, 3.0, 2.0], plan.rating ≤ plan.rating := by
    decide +kernel
  have kept : (recordAll 2 (rated [2.0, 1.0, 3.0, 2.0])).plans = rated [3.0, 2.0] := rfl
  have best := recordAll_keeps_best 2 numbers
  rw [kept] at best
  exact ⟨numbers, kept, best⟩

end Findings
end Hexfield
