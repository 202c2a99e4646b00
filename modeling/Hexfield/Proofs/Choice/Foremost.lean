import Hexfield.Choice
import Hexfield.Proofs.Scalar.Order
import Mathlib.Data.List.Induction
import Mathlib.Data.List.Nodup
import Mathlib.Order.Bounds.Basic

namespace Hexfield
namespace Choice

/-!
The best of several candidates that are all rated by numbers.

It is the first of those that no other exceeds: the earlier ones are rated lower and the later ones
no higher.  In this form a choice is easily compared with one from fewer candidates, since leaving
out others does not change it.
-/

variable {ι α : Type} [Scalar α]

/-- A candidate comes before all others of its rating, and none is rated higher. -/
def Foremost (candidates : List (ι × α)) (leader : ι × α) : Prop :=
  ∃ before after, candidates = before ++ leader :: after ∧
    (∀ candidate ∈ before, candidate.2 < leader.2) ∧ ∀ candidate ∈ after, candidate.2 ≤ leader.2

namespace Foremost

variable {candidates : List (ι × α)} {leader : ι × α}

theorem mem (foremost : Foremost candidates leader) : leader ∈ candidates := by
  rcases foremost with ⟨before, after, rfl, -, -⟩
  simp

theorem filter (foremost : Foremost candidates leader) {kept : ι × α → Bool}
    (stays : kept leader = true) : Foremost (candidates.filter kept) leader := by
  rcases foremost with ⟨before, after, rfl, below, above⟩
  refine ⟨before.filter kept, after.filter kept, ?_, ?_, ?_⟩
  · rw [List.filter_append, List.filter_cons_of_pos stays]
  · intro candidate member
    exact below candidate ((List.mem_filter.mp member).1)
  · intro candidate member
    exact above candidate ((List.mem_filter.mp member).1)

variable [Scalar.Ordered α]

theorem le (foremost : Foremost candidates leader) (number : leader.2 ≤ leader.2)
    {candidate : ι × α} (member : candidate ∈ candidates) : candidate.2 ≤ leader.2 := by
  rcases foremost with ⟨before, after, rfl, below, above⟩
  rcases List.mem_append.mp member with early | late
  · exact (Scalar.Ordered.lt_iff.mp (below candidate early)).1
  · rcases List.mem_cons.mp late with rfl | late
    · exact number
    · exact above candidate late

end Foremost

theorem best?_concat (candidates : List (ι × α)) (last : ι × α) :
    best? (candidates ++ [last]) = keep (best? candidates) last := by
  rw [best?, List.foldl_append]
  rfl

variable [Scalar.Ordered α] {candidates : List (ι × α)}

/-- What is chosen comes before all others of its rating, and none is rated higher. -/
theorem foremost_of_best? (numbers : ∀ candidate ∈ candidates, candidate.2 ≤ candidate.2)
    {chosen : ι × α} (best : best? candidates = some chosen) : Foremost candidates chosen := by
  -- The best so far is the foremost among the candidates so far.
  induction candidates using List.reverseRecOn generalizing chosen with
  | nil => cases best
  | append_singleton candidates last ih =>
      have earlier : ∀ candidate ∈ candidates, candidate.2 ≤ candidate.2 := fun candidate member =>
        numbers candidate (List.mem_append_left _ member)
      have number : last.2 ≤ last.2 := numbers last (by simp)
      rw [best?_concat] at best
      cases chosenBefore : best? candidates with
      | none =>
          rw [chosenBefore] at best
          cases best
          rw [(best?_eq_none_iff candidates).mp chosenBefore]
          exact ⟨[], [], rfl, by simp, by simp⟩
      | some leader =>
          have foremost := ih earlier chosenBefore
          have leaderNumber := earlier leader foremost.mem
          rw [chosenBefore] at best
          simp only [keep] at best
          split at best
          case isTrue surpassed =>
            cases best
            refine ⟨candidates, [], rfl, ?_, by simp⟩
            intro candidate member
            exact Scalar.Ordered.lt_of_le_of_lt (foremost.le leaderNumber member) surpassed
          case isFalse unsurpassed =>
            cases best
            have below : last.2 ≤ chosen.2 := by
              rcases Scalar.Ordered.le_total number leaderNumber with le | ge
              · exact le
              · exact Classical.byContradiction fun notBack =>
                  unsurpassed (Scalar.Ordered.lt_iff.mpr ⟨ge, notBack⟩)
            rcases foremost with ⟨before, after, rfl, lower, upper⟩
            refine ⟨before, after ++ [last], by simp, lower, ?_⟩
            intro candidate member
            rcases List.mem_append.mp member with early | late
            · exact upper candidate early
            · rw [List.mem_singleton.mp late]
              exact below

theorem foldl_keep_of_le {leader : ι × α} (after : List (ι × α))
    (above : ∀ candidate ∈ after, candidate.2 ≤ leader.2) :
    after.foldl keep (some leader) = some leader := by
  induction after with
  | nil => rfl
  | cons candidate rest ih =>
      have le := above candidate (by simp)
      have notLess : ¬ leader.2 < candidate.2 := fun less => (Scalar.Ordered.lt_iff.mp less).2 le
      rw [List.foldl_cons, keep]
      simp only [if_neg notLess]
      exact ih fun candidate member => above candidate (List.mem_cons_of_mem _ member)

theorem best?_of_foremost {leader : ι × α} (foremost : Foremost candidates leader) :
    best? candidates = some leader := by
  rcases foremost with ⟨before, after, rfl, below, above⟩
  have reached : best? (before ++ [leader]) = some leader := by
    rw [best?_concat]
    cases chosen : best? before with
    | none => rfl
    | some earlier =>
        simp only [keep]
        rw [if_pos (below earlier (mem_of_best?_eq_some chosen))]
  have parts : before ++ leader :: after = (before ++ [leader]) ++ after := by simp
  rw [parts, best?, List.foldl_append]
  change after.foldl keep (best? (before ++ [leader])) = some leader
  rw [reached]
  exact foldl_keep_of_le after above

section Ascending

variable {number : ι → Nat} {leader : ι × α}

/-- Of candidates in ascending order, the foremost is one that none exceeds, and has the lowest
number of these. -/
theorem foremost_iff_lowest
    (ascending : candidates.Pairwise fun first second => number first.1 < number second.1)
    (numbers : ∀ candidate ∈ candidates, candidate.2 ≤ candidate.2) :
    Foremost candidates leader ↔ leader ∈ candidates ∧
      (∀ candidate ∈ candidates, candidate.2 ≤ leader.2) ∧
      ∀ candidate ∈ candidates, leader.2 ≤ candidate.2 → number leader.1 ≤ number candidate.1 := by
  constructor
  · intro foremost
    refine ⟨foremost.mem, fun candidate => foremost.le (numbers _ foremost.mem), ?_⟩
    intro candidate member equal
    rcases foremost with ⟨before, after, rfl, below, -⟩
    have later := (List.pairwise_cons.mp (List.pairwise_append.mp ascending).2.1).1
    rcases List.mem_append.mp member with early | late
    · exact absurd equal (Scalar.Ordered.lt_iff.mp (below candidate early)).2
    · rcases List.mem_cons.mp late with rfl | late
      · exact Nat.le_refl _
      · exact Nat.le_of_lt (later candidate late)
  · rintro ⟨member, highest, lowest⟩
    rcases List.append_of_mem member with ⟨before, after, rfl⟩
    have earlier := (List.pairwise_append.mp ascending).2.2
    refine ⟨before, after, rfl, ?_, ?_⟩
    · intro candidate early
      have listed : candidate ∈ before ++ leader :: after := List.mem_append_left _ early
      refine Scalar.Ordered.lt_iff.mpr ⟨highest candidate listed, fun equal => ?_⟩
      exact absurd (earlier candidate early leader (List.mem_cons_self ..))
        (Nat.not_lt.mpr (lowest candidate listed equal))
    · intro candidate late
      exact highest candidate (List.mem_append_right _ (List.mem_cons_of_mem _ late))

/-- When candidates with their ratings are listed in ascending order, the chosen one has the least
number of all that are rated highest. -/
theorem map_best?_eq_some_iff {κ : Type} {name : Nat → κ → ι} {offered : Nat → κ → Prop}
    {rating : κ → α} (named : ∀ place kind, number (name place kind) = place)
    (listed : ∀ candidate, candidate ∈ candidates ↔
      ∃ place kind, offered place kind ∧ candidate = (name place kind, rating kind))
    (ascending : candidates.Pairwise fun first second => number first.1 < number second.1)
    (numbers : ∀ place kind, offered place kind → rating kind ≤ rating kind) {choice : ι} :
    (best? candidates).map Prod.fst = some choice ↔
      ∃ place kind, choice = name place kind ∧ offered place kind ∧
        IsLeast {place | ∃ kind, offered place kind ∧
          ∀ other rival, offered other rival → rating rival ≤ rating kind} place := by
  have rated : ∀ candidate ∈ candidates, candidate.2 ≤ candidate.2 := by
    intro candidate member
    rcases (listed candidate).mp member with ⟨place, kind, offer, rfl⟩
    exact numbers place kind offer
  have best (leader : ι × α) : best? candidates = some leader ↔ Foremost candidates leader :=
    ⟨foremost_of_best? rated, best?_of_foremost⟩
  simp only [Option.map_eq_some_iff, best, foremost_iff_lowest ascending rated]
  constructor
  · rintro ⟨leader, ⟨member, highest, lowest⟩, rfl⟩
    rcases (listed leader).mp member with ⟨place, kind, offer, rfl⟩
    refine ⟨place, kind, rfl, offer, ⟨kind, offer, fun other rival rivals => ?_⟩, ?_⟩
    · exact highest (name other rival, rating rival) ((listed _).mpr ⟨other, rival, rivals, rfl⟩)
    · rintro place' ⟨kind', offer', above⟩
      have first := lowest (name place' kind', rating kind')
        ((listed _).mpr ⟨place', kind', offer', rfl⟩) (above place kind offer)
      rwa [named, named] at first
  · rintro ⟨place, kind, rfl, offer, ⟨kind', offer', highest⟩, least⟩
    have member := (listed _).mpr ⟨place, kind, offer, rfl⟩
    -- Two candidates of one number are one, and so they have one rating.
    have distinct : (candidates.map fun candidate => number candidate.1).Nodup :=
      List.pairwise_map.mpr (ascending.imp Nat.ne_of_lt)
    have same := List.inj_on_of_nodup_map distinct ((listed _).mpr ⟨place, kind', offer', rfl⟩)
      member (by rw [named, named])
    have rating_eq : rating kind' = rating kind := congrArg Prod.snd same
    refine ⟨(name place kind, rating kind), ⟨member, ?_, ?_⟩, rfl⟩
    · intro candidate among
      rcases (listed candidate).mp among with ⟨other, rival, rivals, rfl⟩
      rw [← rating_eq]
      exact highest other rival rivals
    · intro candidate among equal
      rcases (listed candidate).mp among with ⟨other, rival, rivals, rfl⟩
      rw [named, named]
      refine least ⟨rival, rivals, fun third kind'' offer'' => ?_⟩
      rw [← rating_eq] at equal
      exact Scalar.Ordered.le_trans (highest third kind'' offer'') equal

end Ascending

end Choice
end Hexfield
