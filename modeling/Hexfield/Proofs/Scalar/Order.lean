import Hexfield.Scalar

namespace Hexfield

/-!
The order of scalars.

Binary64 has a value that compares with nothing, itself included.  All other values are ordered like
numbers, except that the two zeros are not told apart.  A scalar type is ordered if that much holds:
what compares at all is a number, and numbers are in a total preorder.
-/

/-- The comparison is a total preorder on those scalars that compare at all. -/
class Scalar.Ordered (α : Type) [Scalar α] : Prop where
  numbers_of_le : ∀ {a b : α}, a ≤ b → a ≤ a ∧ b ≤ b
  le_trans : ∀ {a b c : α}, a ≤ b → b ≤ c → a ≤ c
  le_total : ∀ {a b : α}, a ≤ a → b ≤ b → a ≤ b ∨ b ≤ a
  lt_iff : ∀ {a b : α}, a < b ↔ a ≤ b ∧ ¬ b ≤ a

namespace Scalar.Ordered

variable {α : Type} [Scalar α] [Scalar.Ordered α]

theorem lt_irrefl (a : α) : ¬ a < a := by
  intro less
  exact (lt_iff.mp less).2 (lt_iff.mp less).1

theorem number_of_lt {a b : α} (less : a < b) : b ≤ b :=
  (numbers_of_le (lt_iff.mp less).1).2

theorem lt_of_le_of_lt {a b c : α} (le : a ≤ b) (less : b < c) : a < c := by
  refine lt_iff.mpr ⟨le_trans le (lt_iff.mp less).1, ?_⟩
  intro back
  exact (lt_iff.mp less).2 (le_trans back le)

theorem lt_of_lt_of_le {a b c : α} (less : a < b) (le : b ≤ c) : a < c := by
  refine lt_iff.mpr ⟨le_trans (lt_iff.mp less).1 le, ?_⟩
  intro back
  exact (lt_iff.mp less).2 (le_trans le back)

theorem le_of_not_lt {a b : α} (number : a ≤ a) (number' : b ≤ b) (notLess : ¬ b < a) : a ≤ b := by
  rcases le_total number number' with le | ge
  · exact le
  · exact Classical.byContradiction fun notBack => notLess (lt_iff.mpr ⟨ge, notBack⟩)

end Scalar.Ordered

/-- A scalar type is numeric if moreover every number equals itself, so that the larger of two
numbers is found by asking which of them is one. -/
class Scalar.Numeric (α : Type) [Scalar α] : Prop extends Scalar.Ordered α where
  beq_self : ∀ {a : α}, a ≤ a → (a == a) = true

/-- The larger of two numbers is one of them, and the other is no larger. -/
theorem Scalar.larger_cases {α : Type} [Scalar α] [Scalar.Numeric α] {a b : α} (number : a ≤ a)
    (number' : b ≤ b) : larger a b = a ∧ b ≤ a ∨ larger a b = b ∧ a ≤ b := by
  unfold larger
  by_cases less : a < b
  · rw [if_pos less]
    exact Or.inr ⟨rfl, (Ordered.lt_iff.mp less).1⟩
  · rw [if_neg less, if_pos (Numeric.beq_self number)]
    exact Or.inl ⟨rfl, Ordered.le_of_not_lt number' number less⟩

instance : Scalar.Ordered Rat where
  numbers_of_le := fun {a b} _ => ⟨Rat.le_refl, Rat.le_refl⟩
  le_trans := Rat.le_trans
  le_total := fun {a b} _ _ => Rat.le_total
  lt_iff := fun {a b} => by
    constructor
    · intro less
      exact ⟨Rat.le_of_lt less, Rat.not_le.mpr less⟩
    · intro strict
      exact Rat.not_le.mp strict.2

instance : Scalar.Numeric Rat where
  beq_self := fun {a} _ => beq_self_eq_true a

/-! ## Binary64 -/

namespace Binary64

open Float.Model (UnpackedFloat)

/-- The place of a value among all that are numbers: first by what kind of number it is, and among
finite numbers of one sign by exponent and mantissa. -/
def rank : UnpackedFloat → Option (Int × Int × Int)
  | .notANumber => none
  | .infinity .negative => some (-2, 0, 0)
  | .finite .negative mantissa exponent _ => some (-1, -exponent, -mantissa)
  | .zero _ => some (0, 0, 0)
  | .finite .positive mantissa exponent _ => some (1, exponent, mantissa)
  | .infinity .positive => some (2, 0, 0)

/-- Ranks are ordered by their parts, one after another. -/
def compareRank : Int × Int × Int → Int × Int × Int → Ordering :=
  compareLex (compareOn Prod.fst)
    (compareLex (compareOn fun rank => rank.2.1) (compareOn fun rank => rank.2.2))

instance : Std.TransCmp compareRank :=
  inferInstanceAs (Std.TransCmp (compareLex (compareOn Prod.fst)
    (compareLex (compareOn fun rank : Int × Int × Int => rank.2.1)
      (compareOn fun rank : Int × Int × Int => rank.2.2))))

private theorem compare_neg (a b : Int) : compare (-a) (-b) = (compare a b).swap := by
  rcases Int.lt_trichotomy a b with less | rfl | greater
  · rw [Int.compare_eq_lt.mpr less, Int.compare_eq_gt.mpr (Int.neg_lt_neg less)]
    rfl
  · rw [Int.compare_eq_eq.mpr rfl, Int.compare_eq_eq.mpr rfl]
    rfl
  · rw [Int.compare_eq_gt.mpr greater, Int.compare_eq_lt.mpr (Int.neg_lt_neg greater)]
    rfl

private theorem compare_natCast (a b : Nat) : compare (a : Int) (b : Int) = compare a b := by
  rcases Nat.lt_trichotomy a b with less | rfl | greater
  · rw [Nat.compare_eq_lt.mpr less, Int.compare_eq_lt.mpr (Int.ofNat_lt.mpr less)]
  · rw [Nat.compare_eq_eq.mpr rfl, Int.compare_eq_eq.mpr rfl]
  · rw [Nat.compare_eq_gt.mpr greater, Int.compare_eq_gt.mpr (Int.ofNat_lt.mpr greater)]

private theorem compareRank_of_fst_eq (kind exponent mantissa exponent' mantissa' : Int) :
    compareRank (kind, exponent, mantissa) (kind, exponent', mantissa') =
      (compare exponent exponent').then (compare mantissa mantissa') := by
  simp [compareRank, compareLex, compareOn]

theorem compare_eq (x y : UnpackedFloat) :
    x.compare y = (rank x).bind fun a => (rank y).map fun b => compareRank a b := by
  rcases x with (_ | _) | _ | sign | ⟨_ | _, mantissa, exponent, positive⟩ <;>
    rcases y with (_ | _) | _ | sign' | ⟨_ | _, mantissa', exponent', positive'⟩ <;>
    try rfl
  · change some ((compare exponent exponent').then (compare mantissa mantissa')).swap =
      some (compareRank (-1, -exponent, -mantissa) (-1, -exponent', -mantissa'))
    rw [compareRank_of_fst_eq, compare_neg, compare_neg, compare_natCast, Ordering.swap_then]
  · change some ((compare exponent exponent').then (compare mantissa mantissa')) =
      some (compareRank (1, exponent, mantissa) (1, exponent', mantissa'))
    rw [compareRank_of_fst_eq, compare_natCast]

theorem le_iff (x y : Float) :
    x ≤ y ↔ ∃ a b, rank x.toModel.unpack = some a ∧ rank y.toModel.unpack = some b ∧
      (compareRank a b).isLE = true := by
  change (decide ((x.toModel.unpack.compare y.toModel.unpack).any (·.isLE) = true)) = true ↔ _
  rw [compare_eq]
  cases rank x.toModel.unpack with
  | none => simp
  | some a =>
      cases rank y.toModel.unpack with
      | none => simp
      | some b => simp

theorem lt_iff (x y : Float) :
    x < y ↔ ∃ a b, rank x.toModel.unpack = some a ∧ rank y.toModel.unpack = some b ∧
      compareRank a b = .lt := by
  change (decide ((x.toModel.unpack.compare y.toModel.unpack == some .lt) = true)) = true ↔ _
  rw [compare_eq]
  cases rank x.toModel.unpack with
  | none => simp
  | some a =>
      cases rank y.toModel.unpack with
      | none => simp
      | some b => simp

end Binary64

open Binary64 in
instance : Scalar.Ordered Float where
  numbers_of_le := fun {x y} le => by
    rcases (le_iff x y).mp le with ⟨a, b, rankX, rankY, -⟩
    have self : ∀ rank, (compareRank rank rank).isLE = true := fun rank =>
      Ordering.isLE_of_eq_eq (Std.ReflCmp.compare_self : compareRank rank rank = .eq)
    exact ⟨(le_iff x x).mpr ⟨a, a, rankX, rankX, self a⟩,
      (le_iff y y).mpr ⟨b, b, rankY, rankY, self b⟩⟩
  le_trans := fun {x y z} left right => by
    rcases (le_iff x y).mp left with ⟨a, b, rankX, rankY, le⟩
    rcases (le_iff y z).mp right with ⟨b', c, rankY', rankZ, le'⟩
    rw [rankY] at rankY'
    cases rankY'
    exact (le_iff x z).mpr ⟨a, c, rankX, rankZ, Std.TransCmp.isLE_trans le le'⟩
  le_total := fun {x y} number number' => by
    rcases (le_iff x x).mp number with ⟨a, -, rankX, -, -⟩
    rcases (le_iff y y).mp number' with ⟨b, -, rankY, -, -⟩
    cases order : compareRank a b with
    | lt => exact Or.inl ((le_iff x y).mpr ⟨a, b, rankX, rankY, by rw [order]; rfl⟩)
    | eq => exact Or.inl ((le_iff x y).mpr ⟨a, b, rankX, rankY, by rw [order]; rfl⟩)
    | gt =>
        have back : compareRank b a = .lt := Std.OrientedCmp.lt_of_gt order
        exact Or.inr ((le_iff y x).mpr ⟨b, a, rankY, rankX, by rw [back]; rfl⟩)
  lt_iff := fun {x y} => by
    constructor
    · intro less
      rcases (Binary64.lt_iff x y).mp less with ⟨a, b, rankX, rankY, order⟩
      refine ⟨(le_iff x y).mpr ⟨a, b, rankX, rankY, by rw [order]; rfl⟩, ?_⟩
      intro back
      rcases (le_iff y x).mp back with ⟨b', a', rankY', rankX', le⟩
      rw [rankX] at rankX'
      rw [rankY] at rankY'
      cases rankX'
      cases rankY'
      rw [Std.OrientedCmp.gt_of_lt order] at le
      cases le
    · rintro ⟨le, notBack⟩
      rcases (le_iff x y).mp le with ⟨a, b, rankX, rankY, order⟩
      refine (Binary64.lt_iff x y).mpr ⟨a, b, rankX, rankY, ?_⟩
      cases same : compareRank a b with
      | lt => rfl
      | eq =>
          have back : compareRank b a = .eq := Std.OrientedCmp.eq_symm same
          exact absurd ((le_iff y x).mpr ⟨b, a, rankY, rankX, by rw [back]; rfl⟩) notBack
      | gt =>
          rw [same] at order
          cases order

open Binary64 in
instance : Scalar.Numeric Float where
  beq_self := fun {x} number => by
    rcases (le_iff x x).mp number with ⟨a, -, rankX, -, -⟩
    change (x.toModel.unpack.compare x.toModel.unpack == some .eq) = true
    rw [compare_eq, rankX]
    exact beq_iff_eq.mpr (congrArg some (Std.ReflCmp.compare_self : compareRank a a = .eq))

end Hexfield
