import Hexfield.Plan.Search
import Hexfield.Proofs.Scalar.Order

namespace Hexfield

/-!
What a search keeps of the plans it comes by.

A growth adds plans to the findings and may drop others, the lowest rated one each time that there
are too many.  So it is not known which plans are kept, but each was among the findings before or is
one of the plans added, and there are never more than the limit.  At the end they are ranked; as no
kept plan is rated with something that is not a number, the ranking goes by the ratings throughout.
-/

variable {α : Type}

namespace Findings

/-- Findings grow into others by plans of a kind, no two of them by the same attackers in the same
order, all of which have attackers as expected. -/
structure Adds (limit : Nat) (kind : Plan α → Prop) (expected : List UnitId → Prop)
    (before after : Findings α) : Prop where
  plans : ∃ added, List.Sublist after.plans (before.plans ++ added) ∧
    (added.map Plan.attackers).Nodup ∧ ∀ plan ∈ added, kind plan ∧ expected plan.attackers
  limit : before.plans.length ≤ limit → after.plans.length ≤ limit

namespace Adds

variable {limit : Nat} {kind : Plan α → Prop} {expected expected' : List UnitId → Prop}
  {before middle after : Findings α}

theorem unchanged (same : after.plans = before.plans) :
    Adds limit kind expected before after := by
  refine ⟨⟨[], ?_, List.nodup_nil, ?_⟩, ?_⟩
  · rw [same]
    exact List.sublist_append_left before.plans []
  · intro plan member
    cases member
  · intro few
    rw [same]
    exact few

theorem of_plans_eq (adds : Adds limit kind expected middle after)
    (same : middle.plans = before.plans) : Adds limit kind expected before after :=
  ⟨same ▸ adds.plans, same ▸ adds.limit⟩

theorem mono (adds : Adds limit kind expected before after)
    (weaker : ∀ attackers, expected attackers → expected' attackers) :
    Adds limit kind expected' before after := by
  rcases adds.plans with ⟨added, kept, distinct, good⟩
  exact ⟨⟨added, kept, distinct, fun plan member =>
    ⟨(good plan member).1, weaker _ (good plan member).2⟩⟩, adds.limit⟩

theorem trans (adds : Adds limit kind expected before middle)
    (adds' : Adds limit kind expected' middle after)
    (apart : ∀ attackers, expected attackers → ¬ expected' attackers) :
    Adds limit kind (fun attackers => expected attackers ∨ expected' attackers) before after := by
  rcases adds.plans with ⟨added, kept, distinct, good⟩
  rcases adds'.plans with ⟨added', kept', distinct', good'⟩
  refine ⟨⟨added ++ added', ?_, ?_, ?_⟩, fun few => adds'.limit (adds.limit few)⟩
  · rw [← List.append_assoc]
    exact kept'.trans (kept.append_right added')
  · rw [List.map_append]
    refine List.nodup_append.mpr ⟨distinct, distinct', ?_⟩
    rintro attackers member attackers' member' rfl
    rcases List.mem_map.mp member with ⟨plan, listed, rfl⟩
    rcases List.mem_map.mp member' with ⟨plan', listed', same⟩
    have expects := (good' plan' listed').2
    rw [same] at expects
    exact apart _ (good plan listed).2 expects
  · intro plan member
    rcases List.mem_append.mp member with listed | listed
    · exact ⟨(good plan listed).1, Or.inl (good plan listed).2⟩
    · exact ⟨(good' plan listed).1, Or.inr (good' plan listed).2⟩

end Adds

/-! ## Recording a plan -/

variable [Scalar α]

theorem foldl_worse_mem (plans : List (Plan α)) (worst : Plan α) :
    plans.foldl worse worst ∈ worst :: plans := by
  induction plans generalizing worst with
  | nil => exact List.mem_singleton.mpr rfl
  | cons plan plans ih =>
      have chosen : worse worst plan = worst ∨ worse worst plan = plan := by
        unfold worse
        split
        · exact Or.inr rfl
        · exact Or.inl rfl
      rw [List.foldl_cons]
      rcases List.mem_cons.mp (ih (worse worst plan)) with first | later
      · rw [first]
        rcases chosen with keeps | takes
        · rw [keeps]
          exact List.mem_cons_self ..
        · rw [takes]
          exact List.mem_cons_of_mem _ (List.mem_cons_self ..)
      · exact List.mem_cons_of_mem _ (List.mem_cons_of_mem _ later)

theorem dropWorst_sublist (plans : List (Plan α)) : List.Sublist (dropWorst plans) plans := by
  cases plans with
  | nil => exact List.Sublist.refl _
  | cons first others => exact List.eraseP_sublist

/-- The first plan is dropped that does not exceed the lowest rated one. -/
theorem exists_split_dropWorst [Scalar.Ordered α] (first : Plan α) (others : List (Plan α)) :
    ∃ before worst after, first :: others = before ++ worst :: after ∧
      dropWorst (first :: others) = before ++ after ∧
      ¬ (others.foldl worse first).rating < worst.rating := by
  let low := others.foldl worse first
  let drops (plan : Plan α) : Bool := !decide (low.rating < plan.rating)
  -- At the latest it is the lowest rated one itself.
  have itself : drops low = true := by simp [drops, Scalar.Ordered.lt_irrefl]
  rcases List.exists_of_eraseP (foldl_worse_mem others first) itself with
    ⟨worst, before, after, -, dropped, split, erased⟩
  exact ⟨before, worst, after, split, erased, by simpa [drops] using dropped⟩

theorem length_dropWorst [Scalar.Ordered α] (plans : List (Plan α)) :
    (dropWorst plans).length = plans.length - 1 := by
  cases plans with
  | nil => rfl
  | cons first others =>
      rcases exists_split_dropWorst first others with ⟨before, worst, after, split, dropped, -⟩
      rw [dropped, split]
      simp

theorem adds_record [Scalar.Ordered α] {limit : Nat} {kind : Plan α → Prop} {plan : Plan α}
    (good : kind plan) (findings : Findings α) :
    Adds limit kind (fun attackers => attackers = plan.attackers) findings
      (findings.record limit plan) := by
  refine ⟨⟨[plan], ?_, ?_, ?_⟩, ?_⟩
  · unfold record
    simp only
    split
    · exact dropWorst_sublist _
    · exact List.Sublist.refl _
  · exact List.nodup_cons.mpr ⟨by simp, List.nodup_nil⟩
  · intro other member
    rw [List.mem_singleton.mp member]
    exact ⟨good, rfl⟩
  · intro few
    unfold record
    simp only
    split
    · rw [length_dropWorst, List.length_append, List.length_singleton]
      exact few
    · rename_i fits
      exact Nat.le_of_not_lt fits

@[simp] theorem plans_toExceed (findings : Findings α) (depth : Nat) (current : α) :
    (findings.toExceed depth current).2.plans = findings.plans := by
  unfold toExceed
  split
  · rfl
  · rfl

end Findings

namespace Search

/-! ## The ranking -/

variable [Scalar α]

theorem ranked_perm (plans : List (Plan α)) : (ranked plans).Perm plans :=
  List.mergeSort_perm _ _

theorem pairwise_ranked [Scalar.Ordered α] {plans : List (Plan α)}
    (numbers : ∀ plan ∈ plans, plan.rating ≤ plan.rating) :
    (ranked plans).Pairwise fun better worse => worse.rating ≤ better.rating := by
  -- The order is total on numbers only, so the sorting is done among plans that have one.
  let numbered := plans.attach.map fun plan =>
    (⟨plan.val, numbers plan.val plan.property⟩ : { plan : Plan α // plan.rating ≤ plan.rating })
  let better (a b : { plan : Plan α // plan.rating ≤ plan.rating }) : Bool :=
    decide (b.val.rating ≤ a.val.rating)
  have same : numbered.map Subtype.val = plans := by
    simp [numbered, List.map_map, Function.comp_def]
  have sorted : (numbered.mergeSort better).Pairwise fun a b => better a b = true := by
    apply List.pairwise_mergeSort
    · intro a b c first second
      exact decide_eq_true
        (Scalar.Ordered.le_trans (of_decide_eq_true second) (of_decide_eq_true first))
    · intro a b
      rcases Scalar.Ordered.le_total a.property b.property with less | less
      · simp [better, less]
      · simp [better, less]
  have ranks : ranked plans = (numbered.mergeSort better).map Subtype.val := by
    have along : (numbered.mergeSort better).map Subtype.val =
        ranked (numbered.map Subtype.val) :=
      List.map_mergeSort fun _ _ _ _ => rfl
    rw [along, same]
  rw [ranks, List.pairwise_map]
  exact sorted.imp fun listed => of_decide_eq_true listed

end Search
end Hexfield
