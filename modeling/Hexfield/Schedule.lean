namespace Hexfield

/-!
Who swings when.

In one round the two sides alternate, the leader first, until one of them has no strikes left; the
rest belong to the other side.  An exchange of several rounds is one such round after another, in
which only the first can be led by the defender.
-/

namespace Schedule

/-- The order of a round.  The leader's swings are marked with `mark`, the others with its
negation. -/
def alternate (mark : Bool) : (lead follow : Nat) → List Bool
  | 0, follow => List.replicate follow (!mark)
  | lead + 1, 0 => List.replicate (lead + 1) mark
  | lead + 1, follow + 1 => mark :: (!mark) :: alternate mark lead follow

/-- The order of a round; `true` marks a swing of the first side. -/
def round (first second : Nat) (firstLeads : Bool) : List Bool :=
  if firstLeads then alternate true first second else alternate false second first

/-- When the leader has swung, the other side leads the rest of the round. -/
theorem alternate_succ (mark : Bool) (lead follow : Nat) :
    alternate mark (lead + 1) follow = mark :: alternate (!mark) follow lead := by
  induction lead generalizing follow with
  | zero =>
      cases follow with
      | zero => rfl
      | succ follow => simp [alternate, List.replicate_succ]
  | succ lead ih =>
      cases follow with
      | zero => simp [alternate, List.replicate_succ]
      | succ follow => rw [alternate, alternate, ih, Bool.not_not]

theorem alternate_zero (mark : Bool) (follow : Nat) :
    alternate mark 0 follow = alternate (!mark) follow 0 := by
  cases follow <;> simp [alternate, List.replicate_succ]

theorem length_alternate (mark : Bool) (lead follow : Nat) :
    (alternate mark lead follow).length = lead + follow := by
  induction lead generalizing follow with
  | zero => simp [alternate]
  | succ lead ih =>
      cases follow with
      | zero => simp [alternate]
      | succ follow =>
          simp only [alternate, List.length_cons, ih]
          omega

theorem length_round (first second : Nat) (firstLeads : Bool) :
    (round first second firstLeads).length = first + second := by
  cases firstLeads <;> simp [round, length_alternate, Nat.add_comm]

theorem count_alternate (mark : Bool) (lead follow : Nat) :
    (alternate mark lead follow).count mark = lead ∧
      (alternate mark lead follow).count (!mark) = follow := by
  induction lead generalizing mark follow with
  | zero => cases mark <;> simp [alternate, List.count_replicate]
  | succ lead ih =>
      cases follow with
      | zero => cases mark <;> simp [alternate, List.count_replicate]
      | succ follow =>
          rcases ih mark follow with ⟨leads, follows⟩
          cases mark with
          | true => exact ⟨by simp [alternate, leads], by simpa [alternate] using follows⟩
          | false => exact ⟨by simp [alternate, leads], by simpa [alternate] using follows⟩

theorem count_round (first second : Nat) (firstLeads : Bool) :
    (round first second firstLeads).count true = first ∧
      (round first second firstLeads).count false = second := by
  cases firstLeads with
  | true => exact count_alternate true first second
  | false => exact (count_alternate false second first).symm

/-- In a list of swings of one side the other side does not swing. -/
theorem count_take_replicate {mark striker : Bool} {length n : Nat}
    (swings : (List.replicate length mark)[n]? = some striker) :
    ((List.replicate length mark).take n).count (!striker) = 0 := by
  have own : striker = mark := List.eq_of_mem_replicate (List.mem_of_getElem? swings)
  simp [own, List.take_replicate, List.count_replicate]

/-- Before any swing of a round, the other side has swung no more often than the striker has with
this swing. -/
theorem count_take_alternate (mark : Bool) (lead follow : Nat) :
    ∀ {n : Nat} {striker : Bool}, (alternate mark lead follow)[n]? = some striker →
      ((alternate mark lead follow).take n).count (!striker) ≤
        ((alternate mark lead follow).take (n + 1)).count striker := by
  induction lead generalizing follow with
  | zero =>
      intro n striker swings
      rw [alternate] at swings ⊢
      rw [count_take_replicate swings]
      exact Nat.zero_le _
  | succ lead ih =>
      intro n striker swings
      cases follow with
      | zero =>
          rw [alternate] at swings ⊢
          rw [count_take_replicate swings]
          exact Nat.zero_le _
      | succ follow =>
          rw [alternate] at swings ⊢
          match n with
          | 0 => exact Nat.zero_le _
          | 1 =>
              have own : (!mark) = striker := Option.some.inj swings
              subst own
              cases mark <;> simp
          | n + 2 =>
              have rest := @ih follow n striker swings
              cases mark <;> cases striker <;>
                simpa [List.take_succ_cons, List.count_cons] using rest

theorem count_take_round {first second : Nat} {firstLeads : Bool} {n : Nat} {striker : Bool}
    (swings : (round first second firstLeads)[n]? = some striker) :
    ((round first second firstLeads).take n).count (!striker) ≤
      ((round first second firstLeads).take (n + 1)).count striker := by
  cases firstLeads with
  | true => exact count_take_alternate true first second swings
  | false => exact count_take_alternate false second first swings

/-- Seen from the other side, a round is the same round with the marks exchanged. -/
theorem map_not_alternate (mark : Bool) (lead follow : Nat) :
    (alternate mark lead follow).map (!·) = alternate (!mark) lead follow := by
  induction lead generalizing follow with
  | zero => simp [alternate]
  | succ lead ih =>
      cases follow with
      | zero => simp [alternate]
      | succ follow => simp [alternate, ih]

theorem map_not_round (first second : Nat) (firstLeads : Bool) :
    (round first second firstLeads).map (!·) = round second first (!firstLeads) := by
  cases firstLeads with
  | true => exact map_not_alternate true first second
  | false => exact map_not_alternate false second first

/-- The order of a whole exchange; `true` marks a swing of the attacker. -/
def exchange (attacker defender rounds : Nat) (defenderFirst : Bool) : List Bool :=
  round attacker defender (!defenderFirst) ++
    (List.replicate (rounds - 1) (round attacker defender true)).flatten

end Schedule

end Hexfield
