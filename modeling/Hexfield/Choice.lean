import Hexfield.Scalar

namespace Hexfield
namespace Choice

/-!
Choosing the best rated of several candidates.

The first candidate is taken whatever its rating, and a later one replaces it only when it is rated
strictly higher: among equals the earliest wins.
-/

variable {ι α : Type} [Scalar α]

/-- The better of the best so far and a further candidate. -/
@[specialize] def keep (best : Option (ι × α)) (candidate : ι × α) : Option (ι × α) :=
  match best with
  | none => some candidate
  | some leader => if leader.2 < candidate.2 then some candidate else some leader

/-- The earliest of the best rated candidates. -/
@[specialize] def best? (candidates : List (ι × α)) : Option (ι × α) :=
  candidates.foldl keep none

private theorem foldl_keep_isSome (candidates : List (ι × α)) (leader : ι × α) :
    (candidates.foldl keep (some leader)).isSome = true := by
  induction candidates generalizing leader with
  | nil => rfl
  | cons candidate rest ih =>
      simp only [List.foldl_cons, keep]
      split
      · exact ih candidate
      · exact ih leader

theorem best?_eq_none_iff (candidates : List (ι × α)) :
    best? candidates = none ↔ candidates = [] := by
  cases candidates with
  | nil => simp [best?]
  | cons candidate rest =>
      have chosen := foldl_keep_isSome rest candidate
      simp only [best?, List.foldl_cons, keep, reduceCtorEq, iff_false]
      intro none
      rw [none] at chosen
      contradiction

private theorem foldl_keep_mem (candidates : List (ι × α)) (leader : Option (ι × α))
    {chosen : ι × α} (result : candidates.foldl keep leader = some chosen) :
    leader = some chosen ∨ chosen ∈ candidates := by
  induction candidates generalizing leader with
  | nil => exact Or.inl result
  | cons candidate rest ih =>
      rcases ih _ result with kept | member
      · cases leader with
        | none => exact Or.inr (by simp_all [keep])
        | some first =>
            simp only [keep] at kept
            split at kept
            · exact Or.inr (by simp_all)
            · exact Or.inl kept
      · exact Or.inr (List.mem_cons_of_mem _ member)

theorem mem_of_best?_eq_some {candidates : List (ι × α)} {chosen : ι × α}
    (result : best? candidates = some chosen) : chosen ∈ candidates := by
  rcases foldl_keep_mem candidates none result with impossible | member
  · contradiction
  · exact member

end Choice
end Hexfield
