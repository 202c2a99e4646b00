import Hexfield.Schedule

namespace Hexfield
namespace Schedule

/-!
A round as a merge of the strikes of two sides.

In each turn the leader swings if it has a strike left, and then the other side if it has one.  So
the swings come in pairs, the leader's first, for as long as both sides have strikes; all that are
left then belong to one side.  Which side is called the first does not matter to the swings, only to
how they are marked.
-/

/-- The order of a round, turn by turn. -/
def byTurns (mark : Bool) (lead follow : Nat) : List Bool :=
  if lead = 0 ∧ follow = 0 then []
  else
    (if 0 < lead then [mark] else []) ++ (if 0 < follow then [!mark] else []) ++
      byTurns mark (lead - 1) (follow - 1)
termination_by lead + follow

/-! ## Turn by turn -/

/-- A leader without strikes leaves every turn to the other side. -/
theorem byTurns_zero_left (mark : Bool) (follow : Nat) :
    byTurns mark 0 follow = List.replicate follow (!mark) := by
  induction follow with
  | zero => simp [byTurns]
  | succ follow ih =>
      rw [byTurns]
      simp [ih, List.replicate_succ]

theorem byTurns_zero_right (mark : Bool) (lead : Nat) :
    byTurns mark lead 0 = List.replicate lead mark := by
  induction lead with
  | zero => simp [byTurns]
  | succ lead ih =>
      rw [byTurns]
      simp [ih, List.replicate_succ]

/-- The turns make up the order of a round. -/
theorem byTurns_eq_alternate (mark : Bool) (lead follow : Nat) :
    byTurns mark lead follow = alternate mark lead follow := by
  induction lead generalizing follow with
  | zero => exact byTurns_zero_left mark follow
  | succ lead ih =>
      cases follow with
      | zero => exact byTurns_zero_right mark (lead + 1)
      | succ follow =>
          rw [byTurns, alternate, ← ih]
          simp

/-! ## Pairs, and the rest -/

/-- So many pairs of swings, in each of which the side with the mark goes first. -/
def pairsOfSwings (mark : Bool) (pairs : Nat) : List Bool :=
  (List.replicate pairs [mark, !mark]).flatten

@[simp] theorem length_pairsOfSwings (mark : Bool) (pairs : Nat) :
    (pairsOfSwings mark pairs).length = 2 * pairs := by
  simp [pairsOfSwings, Nat.mul_comm]

/-- One side has no strikes left when the pairs are over, so one of the two rests is empty. -/
theorem alternate_eq (mark : Bool) (lead follow : Nat) :
    alternate mark lead follow =
      pairsOfSwings mark (min lead follow) ++
        (List.replicate (lead - follow) mark ++ List.replicate (follow - lead) (!mark)) := by
  induction lead generalizing follow with
  | zero => simp [alternate, pairsOfSwings]
  | succ lead ih =>
      cases follow with
      | zero => simp [alternate, pairsOfSwings]
      | succ follow =>
          rw [alternate, ih, Nat.succ_min_succ, Nat.succ_sub_succ, Nat.succ_sub_succ]
          simp [pairsOfSwings, List.replicate_succ]

theorem round_eq (first second : Nat) (firstLeads : Bool) :
    round first second firstLeads =
      pairsOfSwings firstLeads (min first second) ++
        (List.replicate (first - second) true ++ List.replicate (second - first) false) := by
  cases firstLeads with
  | true => exact alternate_eq true first second
  | false =>
      rw [round, if_neg Bool.false_ne_true, alternate_eq, Nat.min_comm]
      rcases Nat.le_total first second with le | le
      · simp [Nat.sub_eq_zero_of_le le]
      · simp [Nat.sub_eq_zero_of_le le]

/-- A round is the alternating merge of the strikes of two sides.

It goes turn by turn.  Each side makes its own strikes.  The first swings come in pairs, the
leader's before that of the other side, as many pairs as both sides have strikes for; the swings
after them are those that one side has left.  With the sides exchanged, every swing is marked the
other way. -/
theorem round_merges (first second : Nat) (firstLeads : Bool) :
    (round first second firstLeads =
        if firstLeads then byTurns true first second else byTurns false second first) ∧
      ((round first second firstLeads).count true = first ∧
        (round first second firstLeads).count false = second) ∧
      (round first second firstLeads).take (2 * min first second) =
        (List.replicate (min first second) [firstLeads, !firstLeads]).flatten ∧
      (round first second firstLeads).drop (2 * min first second) =
        List.replicate (first - second) true ++ List.replicate (second - first) false ∧
      round second first (!firstLeads) = (round first second firstLeads).map (!·) := by
  have pairs := length_pairsOfSwings firstLeads (min first second)
  refine ⟨?_, count_round first second firstLeads, ?_, ?_, ?_⟩
  · rw [byTurns_eq_alternate, byTurns_eq_alternate]
    rfl
  · rw [round_eq, List.take_left' pairs]
    rfl
  · rw [round_eq, List.drop_left' pairs]
  · exact (map_not_round first second firstLeads).symm

/-- One strike against three: a pair, and then two swings of the second side. -/
example : round 1 3 true = [true, false, false, false] := rfl

end Schedule
end Hexfield
