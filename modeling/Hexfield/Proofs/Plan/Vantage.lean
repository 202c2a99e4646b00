import Hexfield.Proofs.Movement.Maps
import Hexfield.Proofs.Plan.Flanking
import Hexfield.Proofs.Scalar.Magnitude

namespace Hexfield

/-!
Which approach a unit takes.

The sides of the target are gone through once, and one leader is kept.  A side takes the lead with
better cover, or with equal cover and less danger.  These comparisons order all sides that the unit
can strike from, as long as their ratings are numbers; so the last leader is the first of those with
the least danger among those with the best cover.  With the number of the side as the last resort no
two sides are equal, and the best approach is the only one that is optimal.
-/

variable {α ρ : Type}

namespace Battlefield

def Held (field : Battlefield) (side : Side) (hex : Hex) : Prop :=
  field.board.inBounds hex = true ∧ field.enemyAt hex side = true

instance (field : Battlefield) (side : Side) : DecidablePred (field.Held side) := fun hex =>
  inferInstanceAs (Decidable (field.board.inBounds hex = true ∧ field.enemyAt hex side = true))

/-- Enemies of the side stand on two opposite neighbours of the hex and on a third one, or on all
neighbours on the board but at most one. -/
def Crowded (field : Battlefield) (side : Side) (hex : Hex) : Prop :=
  (∃ place, field.Held side (hex.neighbor place) ∧
      field.Held side (hex.neighbor place.opposite)) ∧
    3 ≤ (hex.neighbors.filter (field.Held side)).length ∨
  (hex.neighbors.filter field.board.inBounds).length ≤
    (hex.neighbors.filter (field.Held side)).length + 1

theorem isSurrounded_iff {field : Battlefield} {side : Side} {hex : Hex} :
    field.isSurrounded side hex = true ↔ field.Crowded side hex := by
  have held : ∀ place, (field.board.inBounds (hex.neighbor place) &&
      field.enemyAt (hex.neighbor place) side) =
        decide (field.Held side (hex.neighbor place)) := by
    intro place
    rw [Bool.eq_iff_iff, Bool.and_eq_true, decide_eq_true_iff, Held]
  have flanked : (axes.any fun axis => decide (field.Held side (hex.neighbor axis.1)) &&
      decide (field.Held side (hex.neighbor axis.2))) = true ↔
        ∃ place, field.Held side (hex.neighbor place) ∧
          field.Held side (hex.neighbor place.opposite) := by
    simp only [axes, List.any_cons, List.any_nil, Bool.or_false, Bool.or_eq_true,
      Bool.and_eq_true, decide_eq_true_eq]
    constructor
    · rintro (both | both | both)
      · exact ⟨.east, both⟩
      · exact ⟨.northEast, both⟩
      · exact ⟨.northWest, both⟩
    · rintro ⟨place, here, across⟩
      cases place
      · exact Or.inl ⟨here, across⟩
      · exact Or.inr (Or.inl ⟨here, across⟩)
      · exact Or.inr (Or.inr ⟨here, across⟩)
      · exact Or.inl ⟨across, here⟩
      · exact Or.inr (Or.inl ⟨across, here⟩)
      · exact Or.inr (Or.inr ⟨across, here⟩)
  have counted : ∀ kept : Hex → Bool,
      Direction.all.countP (fun place => kept (hex.neighbor place)) =
        (hex.neighbors.filter kept).length := by
    intro kept
    rw [Hex.neighbors, ← List.countP_eq_length_filter, List.countP_map]
    rfl
  unfold isSurrounded Crowded
  simp only [held, Bool.or_eq_true, Bool.and_eq_true, decide_eq_true_eq, flanked,
    counted fun other => decide (field.Held side other), counted field.board.inBounds]
  rfl

end Battlefield

namespace Approach

/-- A unit can strike at a hex from this side of it: the side is not taken, its hex is on the board,
no other unit stands there, and the unit stands there already or can end its move there. -/
structure Admits (context : Context α ρ) (id : UnitId) (unit : Combatant) (targetHex : Hex)
    (taken : List Direction) (place : Direction) : Prop where
  untaken : place ∉ taken
  inBounds : context.field.board.inBounds (targetHex.neighbor place) = true
  free : ∀ occupant, context.field.roster.idAt? (targetHex.neighbor place) = some occupant →
    occupant = id
  reached : unit.hex = targetHex.neighbor place ∨
    targetHex.neighbor place ∈ context.ownMoves.destinations id

variable {context : Context α ρ} {id : UnitId} {unit : Combatant} {targetHex : Hex}
  {taken : List Direction} {mapped : Battlefield} {pathfinder : Pathfinder}
  {movers : List UnitId}

theorem admits_iff (built : context.ownMoves = .build mapped pathfinder movers)
    {place : Direction} :
    (!taken.contains place && isOpen context id unit (targetHex.neighbor place)) = true ↔
      Admits context id unit targetHex taken place := by
  have reaches : context.ownMoves.reaches id (targetHex.neighbor place) = true ↔
      targetHex.neighbor place ∈ context.ownMoves.destinations id := by
    rw [built]
    exact (MoveMaps.tell_build mapped pathfinder movers).reaches id _
  simp only [isOpen, Bool.and_eq_true, Bool.or_eq_true, Bool.not_eq_true',
    List.contains_eq_mem, decide_eq_false_iff_not, Option.all_eq_true, beq_iff_eq, reaches]
  constructor
  · rintro ⟨untaken, ⟨inBounds, free⟩, reached⟩
    exact ⟨untaken, inBounds, free, reached⟩
  · rintro ⟨untaken, inBounds, free, reached⟩
    exact ⟨untaken, ⟨inBounds, free⟩, reached⟩

/-- The sides that are gone through, in their order. -/
def openSides (context : Context α ρ) (id : UnitId) (unit : Combatant) (targetHex : Hex)
    (taken : List Direction) : List Direction :=
  Direction.all.filter fun place =>
    !taken.contains place && isOpen context id unit (targetHex.neighbor place)

theorem mem_openSides_iff (built : context.ownMoves = .build mapped pathfinder movers)
    {place : Direction} :
    place ∈ openSides context id unit targetHex taken ↔
      Admits context id unit targetHex taken place := by
  rw [openSides, List.mem_filter, and_iff_right (Direction.mem_all place)]
  exact admits_iff built

theorem pairwise_openSides (context : Context α ρ) (id : UnitId) (unit : Combatant)
    (targetHex : Hex) (taken : List Direction) :
    (openSides context id unit targetHex taken).Pairwise fun earlier later =>
      Direction.all.idxOf earlier < Direction.all.idxOf later := by
  have ordered : Direction.all.Pairwise fun earlier later =>
      Direction.all.idxOf earlier < Direction.all.idxOf later := by
    decide
  exact ordered.filter _

variable [Scalar α]

/-! ## One leader -/

/-- A candidate takes the lead. -/
def Surpasses (candidate leader : Approach α × α) : Prop :=
  leader.2 < candidate.2 ∨ (candidate.2 == leader.2) = true ∧
    candidate.1.danger < leader.1.danger

/-- A candidate is no better than another: it has no better cover, and if it has the same it is no
less dangerous. -/
def NoBetter (candidate leader : Approach α × α) : Prop :=
  candidate.2 ≤ leader.2 ∧ (leader.2 ≤ candidate.2 → leader.1.danger ≤ candidate.1.danger)

/-- Both ratings of an approach are numbers. -/
structure Comparable (candidate : Approach α × α) : Prop where
  cover : candidate.2 ≤ candidate.2
  danger : candidate.1.danger ≤ candidate.1.danger

/-- The first of the best candidates: it surpasses the earlier ones, and the later ones are no
better. -/
def Leads (candidates : List (Approach α × α)) (leader : Approach α × α) : Prop :=
  ∃ before after, candidates = before ++ leader :: after ∧
    (∀ candidate ∈ before, Surpasses leader candidate) ∧
    ∀ candidate ∈ after, NoBetter candidate leader

theorem foldl_prefer_eq_none_iff (candidates : List (Approach α × α)) :
    candidates.foldl prefer none = none ↔ candidates = [] := by
  induction candidates using List.reverseRecOn with
  | nil => simp
  | append_singleton candidates last ih =>
      have someone : ∀ leader, prefer leader last ≠ none := by
        intro leader
        unfold prefer
        split
        · simp
        · split <;> simp
      simp [List.foldl_append, someone]

section

variable [Scalar.Additive α] {first second third leader : Approach α × α}
  {candidates : List (Approach α × α)}

theorem NoBetter.trans (no : NoBetter first second) (no' : NoBetter second third) :
    NoBetter first third := by
  refine ⟨Scalar.Ordered.le_trans no.1 no'.1, fun back => ?_⟩
  have middle : second.2 ≤ first.2 := Scalar.Ordered.le_trans no'.1 back
  have last : third.2 ≤ second.2 := Scalar.Ordered.le_trans back no.1
  exact Scalar.Ordered.le_trans (no'.2 last) (no.2 middle)

/-- A candidate surpasses another just when the other is no better than it, and not the other way
round. -/
theorem surpasses_iff :
    Surpasses first second ↔ NoBetter second first ∧ ¬ NoBetter first second := by
  constructor
  · rintro (better | ⟨same, safer⟩)
    · rcases Scalar.Ordered.lt_iff.mp better with ⟨le, notBack⟩
      exact ⟨⟨le, fun back => absurd back notBack⟩, fun no => notBack no.1⟩
    · rcases Scalar.Additive.beq_iff.mp same with ⟨le, ge⟩
      rcases Scalar.Ordered.lt_iff.mp safer with ⟨less, notBack⟩
      exact ⟨⟨ge, fun _ => less⟩, fun no => notBack (no.2 ge)⟩
  · rintro ⟨no, notBack⟩
    by_cases back : first.2 ≤ second.2
    · have unsafer : ¬ second.1.danger ≤ first.1.danger := fun le => notBack ⟨back, fun _ => le⟩
      exact Or.inr ⟨Scalar.Additive.beq_iff.mpr ⟨back, no.1⟩,
        Scalar.Ordered.lt_iff.mpr ⟨no.2 back, unsafer⟩⟩
    · exact Or.inl (Scalar.Ordered.lt_iff.mpr ⟨no.1, back⟩)

theorem noBetter_of_not_surpasses (number : Comparable first) (number' : Comparable second)
    (unsurpassed : ¬ Surpasses first second) : NoBetter first second := by
  have total : NoBetter first second ∨ NoBetter second first := by
    rcases Scalar.Ordered.le_total number.cover number'.cover with le | ge
    · by_cases back : second.2 ≤ first.2
      · rcases Scalar.Ordered.le_total number.danger number'.danger with safer | riskier
        · exact Or.inr ⟨back, fun _ => safer⟩
        · exact Or.inl ⟨le, fun _ => riskier⟩
      · exact Or.inl ⟨le, fun equal => absurd equal back⟩
    · by_cases back : first.2 ≤ second.2
      · rcases Scalar.Ordered.le_total number.danger number'.danger with safer | riskier
        · exact Or.inr ⟨ge, fun _ => safer⟩
        · exact Or.inl ⟨back, fun _ => riskier⟩
      · exact Or.inr ⟨ge, fun equal => absurd equal back⟩
  rcases total with no | no
  · exact no
  · exact Classical.byContradiction fun better =>
      unsurpassed (surpasses_iff.mpr ⟨no, better⟩)

theorem Leads.noBetter (leads : Leads candidates leader)
    (numbers : ∀ candidate ∈ candidates, Comparable candidate) :
    ∀ candidate ∈ candidates, NoBetter candidate leader := by
  rcases leads with ⟨before, after, rfl, surpassed, unsurpassed⟩
  have number : Comparable leader := numbers leader (by simp)
  intro candidate member
  rcases List.mem_append.mp member with early | late
  · exact (surpasses_iff.mp (surpassed candidate early)).1
  · rcases List.mem_cons.mp late with rfl | late
    · exact ⟨number.cover, fun _ => number.danger⟩
    · exact unsurpassed candidate late

theorem surpasses_of_noBetter (no : NoBetter first second) (better : Surpasses third second) :
    Surpasses third first := by
  rcases surpasses_iff.mp better with ⟨le, notBack⟩
  exact surpasses_iff.mpr ⟨no.trans le, fun back => notBack (back.trans no)⟩

/-- Going through the candidates leaves the first of the best as the leader. -/
theorem leads_of_foldl_prefer (numbers : ∀ candidate ∈ candidates, Comparable candidate)
    (result : candidates.foldl prefer none = some leader) : Leads candidates leader := by
  -- The leader so far is the first of the best candidates so far.
  induction candidates using List.reverseRecOn generalizing leader with
  | nil => cases result
  | append_singleton candidates last ih =>
      have earlier : ∀ candidate ∈ candidates, Comparable candidate := fun candidate member =>
        numbers candidate (List.mem_append_left _ member)
      have number : Comparable last := numbers last (by simp)
      rw [List.foldl_append, List.foldl_cons, List.foldl_nil] at result
      cases soFar : candidates.foldl prefer none with
      | none =>
          rw [soFar] at result
          cases result
          rw [(foldl_prefer_eq_none_iff candidates).mp soFar]
          exact ⟨[], [], rfl, by simp, by simp⟩
      | some leader' =>
          have leads := ih earlier soFar
          rw [soFar] at result
          by_cases surpasses : Surpasses last leader'
          · have taken : prefer (some leader') last = some last := if_pos surpasses
            rw [taken] at result
            cases result
            refine ⟨candidates, [], rfl, fun candidate member => ?_, by simp⟩
            exact surpasses_of_noBetter (leads.noBetter earlier candidate member) surpasses
          · have kept : prefer (some leader') last = some leader' := if_neg surpasses
            rw [kept] at result
            cases result
            rcases leads with ⟨before, after, rfl, surpassed, unsurpassed⟩
            have number' : Comparable leader := earlier leader (by simp)
            refine ⟨before, after ++ [last], by simp, surpassed, fun candidate member => ?_⟩
            rcases List.mem_append.mp member with early | late
            · exact unsurpassed candidate early
            · rw [List.mem_singleton.mp late]
              exact noBetter_of_not_surpasses number number' surpasses

end

/-! ## The best approach -/

def rated (context : Context α ρ) (unit : Combatant) (targetHex : Hex) (place : Direction) :
    Approach α × α :=
  (ofPlace context place (targetHex.neighbor place),
    coverRating context.field unit (targetHex.neighbor place) targetHex)

theorem best?_eq (context : Context α ρ) (id : UnitId) (unit : Combatant) (targetHex : Hex)
    (taken : List Direction) :
    best? context id unit targetHex taken =
      (((openSides context id unit targetHex taken).map (rated context unit targetHex)).foldl
        prefer none).map Prod.fst := by
  rw [openSides, ← List.filterMap_eq_map, List.filterMap_filter]
  rfl

/-- How well a unit stands on one side of the target: what a hundred percent are above the chance
that it is hit there, doubled if it has a weapon for the back of the target and can stab it from
there. -/
def standing (field : Battlefield) (unit : Combatant) (targetHex : Hex) (place : Direction) : α :=
  let hex := targetHex.neighbor place
  let unhit : α := Scalar.ofNat (100 - unit.chanceToBeHit (field.terrainAt hex))
  if (∃ weapon ∈ unit.weapons, weapon.hasSpecial .backstab = true) ∧
      field.canBackstab hex targetHex = true then unhit * 2.0
  else unhit

theorem coverRating_eq_standing (field : Battlefield) (unit : Combatant) (targetHex : Hex)
    (place : Direction) :
    (coverRating field unit (targetHex.neighbor place) targetHex : α) =
      standing field unit targetHex place := by
  have stabs : (unit.wields .backstab && field.canBackstab (targetHex.neighbor place) targetHex) =
      true ↔ (∃ weapon ∈ unit.weapons, weapon.hasSpecial .backstab = true) ∧
        field.canBackstab (targetHex.neighbor place) targetHex = true := by
    rw [Bool.and_eq_true, Combatant.wields, List.any_eq_true]
  have unhit : ∀ chance : Nat, 100 - min chance 100 = 100 - chance := fun _ => by omega
  simp only [coverRating, standing, unhit, stabs]

/-- An approach tells the truth about its side of the target. -/
structure Depicts (context : Context α ρ) (targetHex : Hex) (approach : Approach α) : Prop where
  hex : approach.hex = targetHex.neighbor approach.place
  surrounded : approach.surrounded = true ↔ context.field.Crowded context.side approach.hex
  vulnerability : approach.vulnerability =
    if approach.surrounded then Threat.onto context.field approach.hex context.enemyMoves true / 1.2
    else Threat.onto context.field approach.hex context.enemyMoves true
  support : approach.support = Threat.onto context.field approach.hex context.ownMoves false

theorem depicts_iff {approach : Approach α} :
    Depicts context targetHex approach ↔
      approach = ofPlace context approach.place (targetHex.neighbor approach.place) := by
  constructor
  · rintro ⟨hex, surrounded, vulnerability, support⟩
    have same : approach.surrounded = context.field.isSurrounded context.side approach.hex :=
      Bool.eq_iff_iff.mpr (surrounded.trans Battlefield.isSurrounded_iff.symm)
    rcases approach with ⟨place, _, _, _, _⟩
    simp only at hex same vulnerability support
    subst hex same vulnerability support
    rfl
  · intro same
    rw [same]
    exact ⟨rfl, Battlefield.isSurrounded_iff, rfl, rfl⟩

/-- The unit stands best on this side among those that it can strike from, the threat that its own
side does not answer is least among those where it stands best, and the number of the side is the
lowest among those where that is least. -/
structure Optimal (context : Context α ρ) (id : UnitId) (unit : Combatant) (targetHex : Hex)
    (taken : List Direction) (approach : Approach α) : Prop where
  admitted : Admits context id unit targetHex taken approach.place
  depicted : Depicts context targetHex approach
  cover : ∀ place, Admits context id unit targetHex taken place →
    standing context.field unit targetHex place ≤
      (standing context.field unit targetHex approach.place : α)
  danger : ∀ other : Approach α, Admits context id unit targetHex taken other.place →
    Depicts context targetHex other →
    standing context.field unit targetHex approach.place ≤
      (standing context.field unit targetHex other.place : α) →
    approach.vulnerability - approach.support ≤ other.vulnerability - other.support
  first : ∀ other : Approach α, Admits context id unit targetHex taken other.place →
    Depicts context targetHex other →
    standing context.field unit targetHex approach.place ≤
      (standing context.field unit targetHex other.place : α) →
    other.vulnerability - other.support ≤ approach.vulnerability - approach.support →
      Direction.all.idxOf approach.place ≤ Direction.all.idxOf other.place

theorem Optimal.eq [Scalar.Additive α] {approach approach' : Approach α}
    (optimal : Optimal context id unit targetHex taken approach)
    (optimal' : Optimal context id unit targetHex taken approach') : approach = approach' := by
  have cover := optimal'.cover _ optimal.admitted
  have cover' := optimal.cover _ optimal'.admitted
  have danger := optimal'.danger _ optimal.admitted optimal.depicted cover'
  have danger' := optimal.danger _ optimal'.admitted optimal'.depicted cover
  have first := optimal.first _ optimal'.admitted optimal'.depicted cover danger
  have first' := optimal'.first _ optimal.admitted optimal.depicted cover' danger'
  have place : approach.place = approach'.place :=
    (List.idxOf_inj (Direction.mem_all _)).mp (Nat.le_antisymm first first')
  rw [depicts_iff.mp optimal.depicted, depicts_iff.mp optimal'.depicted, place]

theorem optimal_of_leads [Scalar.Additive α]
    (built : context.ownMoves = .build mapped pathfinder movers)
    (numbers : ∀ place, Admits context id unit targetHex taken place →
      Comparable (rated context unit targetHex place))
    {leader : Approach α × α}
    (leads : Leads ((openSides context id unit targetHex taken).map
      (rated context unit targetHex)) leader) :
    Optimal context id unit targetHex taken leader.1 := by
  have comparable : ∀ candidate ∈ (openSides context id unit targetHex taken).map
      (rated context unit targetHex), Comparable candidate := by
    intro candidate member
    rcases List.mem_map.mp member with ⟨place, listed, rfl⟩
    exact numbers place ((mem_openSides_iff built).mp listed)
  have noBetter := leads.noBetter comparable
  rcases leads with ⟨before, after, split, surpassed, -⟩
  rcases List.map_eq_append_iff.mp split with ⟨early, late, sides, rfl, others⟩
  rcases List.map_eq_cons_iff.mp others with ⟨place, later, rfl, rfl, rfl⟩
  have rankedBelow : ∀ other, Admits context id unit targetHex taken other →
      NoBetter (rated context unit targetHex other) (rated context unit targetHex place) :=
    fun other admitted =>
      noBetter _ (List.mem_map_of_mem ((mem_openSides_iff built).mpr admitted))
  have admitted : Admits context id unit targetHex taken place :=
    (mem_openSides_iff built).mp (by simp [sides])
  have depicted : ∀ {other : Approach α}, Depicts context targetHex other →
      other.vulnerability - other.support = (rated context unit targetHex other.place).1.danger :=
    fun depicts => congrArg danger (depicts_iff.mp depicts)
  refine ⟨admitted, depicts_iff.mpr rfl, fun other admitted => ?_,
    fun other admitted depicts cover => ?_, fun other admitted depicts cover danger => ?_⟩
  · rw [← coverRating_eq_standing, ← coverRating_eq_standing]
    exact (rankedBelow other admitted).1
  · rw [← coverRating_eq_standing, ← coverRating_eq_standing] at cover
    rw [depicted depicts]
    exact (rankedBelow other.place admitted).2 cover
  rw [← coverRating_eq_standing, ← coverRating_eq_standing] at cover
  rw [depicted depicts] at danger
  have ordered := pairwise_openSides context id unit targetHex taken
  have member := (mem_openSides_iff built).mpr admitted
  rw [sides] at ordered member
  rcases List.pairwise_append.mp ordered with ⟨-, following, -⟩
  rcases List.mem_append.mp member with earlier | later
  · have better := surpasses_iff.mp (surpassed _ (List.mem_map_of_mem earlier))
    exact absurd ⟨cover, fun _ => danger⟩ better.2
  · rcases List.mem_cons.mp later with rfl | later
    · exact Nat.le_refl _
    · exact Nat.le_of_lt ((List.pairwise_cons.mp following).1 other.place later)

/-- If the ratings of all sides that a unit can strike from are numbers, it has an approach as soon
as there is such a side, and then it takes the one that is optimal. -/
theorem best?_eq_some_iff_optimal [Scalar.Additive α]
    (built : context.ownMoves = .build mapped pathfinder movers)
    (numbers : ∀ place, Admits context id unit targetHex taken place →
      Comparable (rated context unit targetHex place)) :
    (best? context id unit targetHex taken = none ↔
        ∀ place, ¬ Admits context id unit targetHex taken place) ∧
      ∀ approach, best? context id unit targetHex taken = some approach ↔
        Optimal context id unit targetHex taken approach := by
  have nowhere : best? context id unit targetHex taken = none ↔
      ∀ place, ¬ Admits context id unit targetHex taken place := by
    rw [best?_eq, Option.map_eq_none_iff, foldl_prefer_eq_none_iff, List.map_eq_nil_iff,
      List.eq_nil_iff_forall_not_mem]
    exact forall_congr' fun place => not_congr (mem_openSides_iff built)
  have optimal : ∀ approach, best? context id unit targetHex taken = some approach →
      Optimal context id unit targetHex taken approach := by
    intro approach best
    rw [best?_eq] at best
    rcases Option.map_eq_some_iff.mp best with ⟨leader, result, rfl⟩
    refine optimal_of_leads built numbers (leads_of_foldl_prefer ?_ result)
    intro candidate member
    rcases List.mem_map.mp member with ⟨place, listed, rfl⟩
    exact numbers place ((mem_openSides_iff built).mp listed)
  refine ⟨nowhere, fun approach => ⟨optimal approach, fun optimal' => ?_⟩⟩
  cases best : best? context id unit targetHex taken with
  | none => exact absurd optimal'.admitted (nowhere.mp best _)
  | some chosen => rw [(optimal chosen best).eq optimal']

end Approach

/-! ## A hamlet -/

def Battlefield.hamlet : Battlefield :=
  { alcove with board := alcove.board.setTerrain (Hex.neighbor ⟨1, 0⟩ .southEast) .village }

def Context.hamlet : Context Float Unit :=
  Context.begin .hamlet ⟨1⟩ (.ofName "default") .terrain [] ()

namespace Approach

/-- With the sides in the row of the watchman taken, the thief is left with two sides.  In the
alcove they are equal in all respects, and it takes the one with the lower number; in the hamlet it
takes the other, where it stands better. -/
theorem best?_eq_some_iff_optimal_alcove :
    (∃ approach, best? Context.alcove ⟨0⟩ .thief ⟨1, 0⟩ [.east, .west] = some approach ∧
        approach.place = .southWest ∧
        Admits Context.alcove ⟨0⟩ .thief ⟨1, 0⟩ [.east, .west] .southEast ∧
        Optimal Context.alcove ⟨0⟩ .thief ⟨1, 0⟩ [.east, .west] approach) ∧
      ∃ approach, best? Context.hamlet ⟨0⟩ .thief ⟨1, 0⟩ [.east, .west] = some approach ∧
        approach.place = .southEast ∧
        Admits Context.hamlet ⟨0⟩ .thief ⟨1, 0⟩ [.east, .west] .southWest ∧
        (standing .hamlet .thief ⟨1, 0⟩ .southWest : Float) <
          standing .hamlet .thief ⟨1, 0⟩ .southEast ∧
        Optimal Context.hamlet ⟨0⟩ .thief ⟨1, 0⟩ [.east, .west] approach := by
  have alcove : Context.alcove.ownMoves =
      .build .alcove .terrain (Battlefield.alcove.alliesOf ⟨1⟩) :=
    rfl
  have hamlet : Context.hamlet.ownMoves =
      .build .hamlet .terrain (Battlefield.hamlet.alliesOf ⟨1⟩) :=
    rfl
  have numbers : ∀ place,
      Comparable (rated Context.alcove .thief ⟨1, 0⟩ place) ∧
        Comparable (rated Context.hamlet .thief ⟨1, 0⟩ place) := by
    intro place
    cases place <;>
      exact ⟨⟨by decide +kernel, by decide +kernel⟩, ⟨by decide +kernel, by decide +kernel⟩⟩
  have chosen : (best? Context.alcove ⟨0⟩ .thief ⟨1, 0⟩ [.east, .west]).map Approach.place =
        some .southWest ∧
      (best? Context.hamlet ⟨0⟩ .thief ⟨1, 0⟩ [.east, .west]).map Approach.place =
        some .southEast := by
    decide +kernel
  have other : (!([.east, .west] : List Direction).contains .southEast &&
        isOpen Context.alcove ⟨0⟩ .thief (Hex.neighbor ⟨1, 0⟩ .southEast)) = true ∧
      (!([.east, .west] : List Direction).contains .southWest &&
        isOpen Context.hamlet ⟨0⟩ .thief (Hex.neighbor ⟨1, 0⟩ .southWest)) = true := by
    decide +kernel
  rcases Option.map_eq_some_iff.mp chosen.1 with ⟨equal, best, southWest⟩
  rcases Option.map_eq_some_iff.mp chosen.2 with ⟨better, best', southEast⟩
  refine ⟨⟨equal, best, southWest, (admits_iff alcove).mp other.1, ?_⟩, better, best', southEast,
    (admits_iff hamlet).mp other.2, by decide +kernel, ?_⟩
  · exact ((best?_eq_some_iff_optimal alcove fun place _ => (numbers place).1).2 equal).mp best
  · exact ((best?_eq_some_iff_optimal hamlet fun place _ => (numbers place).2).2 better).mp best'

end Approach
end Hexfield
