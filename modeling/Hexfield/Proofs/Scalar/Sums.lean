import Hexfield.Proofs.Odds.Tail
import Hexfield.Proofs.Scalar.Order

namespace Hexfield

/-!
Sums of scalars that are not negative.

Binary64 addition rounds, but it never takes away: a sum of numbers that are not negative is not
negative either, and it vanishes only if each of them does.
-/

/-- Numbers that are not negative add up: their sum is not negative, and it vanishes just when both
of them do. -/
class Scalar.Additive (α : Type) [Scalar α] : Prop extends Scalar.Numeric α where
  zero : (0.0 : α) ≤ 0.0
  none_nonneg : (0.0 : α) ≤ Scalar.sumOfNone
  none_nonpos : (Scalar.sumOfNone : α) ≤ 0.0
  add_nonneg : ∀ {a b : α}, 0.0 ≤ a → 0.0 ≤ b → 0.0 ≤ a + b
  add_nonpos_iff : ∀ {a b : α}, 0.0 ≤ a → 0.0 ≤ b → (a + b ≤ 0.0 ↔ a ≤ 0.0 ∧ b ≤ 0.0)
  beq_iff : ∀ {a b : α}, (a == b) = true ↔ a ≤ b ∧ b ≤ a

namespace Scalar

variable {α : Type} [Scalar α] [Scalar.Additive α]

/-- From a start that is not negative, a sum is not negative, and it vanishes just when the start
and all of the terms do. -/
theorem foldl_add_nonneg (terms : List α) (nonneg : ∀ term ∈ terms, (0.0 : α) ≤ term) :
    ∀ start : α, 0.0 ≤ start → 0.0 ≤ terms.foldl (· + ·) start ∧
      (terms.foldl (· + ·) start ≤ 0.0 ↔ start ≤ 0.0 ∧ ∀ term ∈ terms, term ≤ 0.0) := by
  induction terms with
  | nil =>
      intro start startNonneg
      exact ⟨startNonneg, by simp⟩
  | cons term rest ih =>
      intro start startNonneg
      have first := nonneg term (by simp)
      have further := ih (fun other member => nonneg other (List.mem_cons_of_mem _ member))
        (start + term) (Additive.add_nonneg startNonneg first)
      refine ⟨further.1, further.2.trans ?_⟩
      rw [Additive.add_nonpos_iff startNonneg first, List.forall_mem_cons, and_assoc]

theorem sum_nonneg {terms : List α} (nonneg : ∀ term ∈ terms, (0.0 : α) ≤ term) :
    0.0 ≤ sum terms :=
  (foldl_add_nonneg terms nonneg sumOfNone Additive.none_nonneg).1

theorem sum_nonpos_iff {terms : List α} (nonneg : ∀ term ∈ terms, (0.0 : α) ≤ term) :
    sum terms ≤ 0.0 ↔ ∀ term ∈ terms, term ≤ (0.0 : α) := by
  rw [sum, (foldl_add_nonneg terms nonneg sumOfNone Additive.none_nonneg).2]
  exact and_iff_right Additive.none_nonpos

/-- A sum of terms that are not negative equals zero just when none of them is positive. -/
theorem sum_beq_zero_iff {terms : List α} (nonneg : ∀ term ∈ terms, (0.0 : α) ≤ term) :
    (sum terms == 0.0) = true ↔ ∀ term ∈ terms, term ≤ (0.0 : α) := by
  rw [Additive.beq_iff, sum_nonpos_iff nonneg]
  exact and_iff_left (sum_nonneg nonneg)

end Scalar

instance : Scalar.Additive ℚ where
  zero := le_refl _
  none_nonneg := by
    rw [Scalar.rat_zero]
    exact le_refl (0 : ℚ)
  none_nonpos := by
    rw [Scalar.rat_zero]
    exact le_refl (0 : ℚ)
  add_nonneg := fun {a b} nonneg nonneg' => by
    rw [Scalar.rat_zero] at *
    exact add_nonneg nonneg nonneg'
  add_nonpos_iff := fun {a b} nonneg nonneg' => by
    rw [Scalar.rat_zero] at *
    constructor
    · intro vanishes
      constructor
      · exact le_trans (le_add_of_nonneg_right nonneg') vanishes
      · exact le_trans (le_add_of_nonneg_left nonneg) vanishes
    · rintro ⟨nonpos, nonpos'⟩
      exact add_nonpos nonpos nonpos'
  beq_iff := fun {a b} => beq_iff_eq.trans le_antisymm_iff

end Hexfield
