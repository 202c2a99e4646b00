namespace Hexfield
namespace Halving

/-!
Looking a value up in a list that is in increasing order.

The value is compared with the middle of the list; if it does not stand there, it is looked for in
the half on that side of the middle on which alone it can stand.  What is found is there in any
case, and in a list in order everything that is there is found.
-/

variable {α : Type} [Ord α]

def contains (values : List α) (value : α) : Bool :=
  match _halved : values.drop (values.length / 2) with
  | [] => false
  | middle :: above =>
      match compare value middle with
      | .lt => contains (values.take (values.length / 2)) value
      | .eq => true
      | .gt => contains above value
termination_by values.length
decreasing_by
  · have length := congrArg List.length _halved
    rw [List.length_drop, List.length_cons] at length
    rw [List.length_take]
    omega
  · have length := congrArg List.length _halved
    rw [List.length_drop, List.length_cons] at length
    omega

theorem mem_of_contains [Std.LawfulEqOrd α] {values : List α} {value : α}
    (found : contains values value = true) : value ∈ values := by
  fun_induction contains values value with
  | case1 => cases found
  | case2 values middle above halved below ih => exact List.mem_of_mem_take (ih found)
  | case3 values middle above halved same =>
      have here : value ∈ values.drop (values.length / 2) := by
        rw [halved, Std.LawfulEqOrd.eq_of_compare same]
        exact List.mem_cons_self
      exact List.mem_of_mem_drop here
  | case4 values middle above halved beyond ih =>
      have there : value ∈ values.drop (values.length / 2) := by
        rw [halved]
        exact List.mem_cons_of_mem middle (ih found)
      exact List.mem_of_mem_drop there

theorem contains_of_mem [Std.TransOrd α] {values : List α} {value : α}
    (ordered : values.Pairwise (fun a b => compare a b = .lt)) (there : value ∈ values) :
    contains values value = true := by
  fun_induction contains values value with
  | case1 values halved =>
      have short : values.length ≤ values.length / 2 := List.drop_eq_nil_iff.mp halved
      have length := List.length_pos_of_mem there
      omega
  | case2 values middle above halved below ih =>
      rw [← List.take_append_drop (values.length / 2) values, halved] at ordered there
      rcases List.pairwise_append.mp ordered with ⟨lower, upper, -⟩
      refine ih lower ((List.mem_append.mp there).resolve_right fun later => ?_)
      rcases List.mem_cons.mp later with rfl | beyond
      · exact absurd below (by simp)
      · have above := (List.pairwise_cons.mp upper).1 value beyond
        exact Std.OrientedCmp.not_lt_of_lt above below
  | case3 => rfl
  | case4 values middle above halved beyond ih =>
      rw [← List.take_append_drop (values.length / 2) values, halved] at ordered there
      rcases List.pairwise_append.mp ordered with ⟨-, upper, across⟩
      refine ih (List.pairwise_cons.mp upper).2 ?_
      rcases List.mem_append.mp there with earlier | later
      · have below := across value earlier middle List.mem_cons_self
        cases below.symm.trans beyond
      · rcases List.mem_cons.mp later with rfl | above
        · exact absurd beyond (by simp)
        · exact above

/-- In a list in order, exactly what is there is found. -/
theorem contains_iff [Std.TransOrd α] [Std.LawfulEqOrd α] {values : List α} {value : α}
    (ordered : values.Pairwise (fun a b => compare a b = .lt)) :
    contains values value = true ↔ value ∈ values :=
  ⟨mem_of_contains, contains_of_mem ordered⟩

end Halving
end Hexfield
