import Hexfield.Proofs.Movement.Maps
import Hexfield.Proofs.Threat.Tally

namespace Hexfield
namespace Threat

/-!
What further movers do to the threat, in exact arithmetic.

A mover that rates best at several neighbours of the hex is posted at the last of these only, and
whoever it displaced at the others is not called back.  So more movers can threaten less.  They
cannot just when the postings are the best that all of the movers allow; in particular if different
movers rate best at different neighbours.  And they never lose more than a factor, the number of the
neighbours: at least the best single rating remains.
-/

variable {field : Battlefield} {hex : Hex} {moves first second : MoveMaps} {useTerrain : Bool}

/-! ## Exact ratings -/

theorem rated_rat (field : Battlefield) (useTerrain : Bool) : Rated ℚ field useTerrain := by
  intro id unit found origin
  have count : ∀ n : ℕ, (0 : ℚ) ≤ Scalar.ofNat n := fun n => (Nat.cast_nonneg n : (0 : ℚ) ≤ n)
  have positive : (0 : ℚ) ≤ 0.5 ∧ (0 : ℚ) ≤ 1.5 ∧ (0 : ℚ) ≤ 1.0 := by norm_num
  have health : (0 : ℚ) ≤ unit.health := by
    rw [Combatant.health]
    split
    · exact Scalar.rat_zero.ge
    · exact div_nonneg (count _) (count _)
  have exposure : (0 : ℚ) ≤ if useTerrain = true then
      Scalar.percent (unit.chanceToBeHit (field.terrainAt origin)) else 0.5 := by
    split
    · rw [Scalar.percent_rat]
      positivity
    · exact positive.1
  have village : (0 : ℚ) ≤ if (useTerrain && (field.terrainAt origin).isVillage) = true
      then 1.5 else 1.0 := by
    split
    · exact positive.2.1
    · exact positive.2.2
  rw [Scalar.rat_zero]
  exact mul_nonneg (mul_nonneg (mul_nonneg health exposure) (count _)) village

/-- The sum of the ratings of the movers that are posted around the hex. -/
def total (field : Battlefield) (hex : Hex) (useTerrain : Bool)
    (posted : Direction → Option UnitId) : ℚ :=
  (Direction.all.map (worth field hex useTerrain posted)).sum

theorem exists_total (field : Battlefield) (hex : Hex) (moves : MoveMaps) (useTerrain : Bool) :
    ∃ posted, Posts ℚ field hex moves useTerrain posted ∧
      onto field hex moves useTerrain = total field hex useTerrain posted := by
  rcases exists_posts hex moves (rated_rat field useTerrain) with
    ⟨posted, posts, sum⟩
  exact ⟨posted, posts, sum.trans (Scalar.sum_rat _)⟩

theorem Posts.of_subset {posted : Direction → Option UnitId}
    (posts : Posts ℚ field hex first useTerrain posted)
    (more : ∀ origin, first.movers origin ⊆ second.movers origin) :
    Posts ℚ field hex second useTerrain posted where
  strikes := by
    intro place mover assigned
    rcases posts.strikes place mover assigned with ⟨onBoard, listed, rating⟩
    exact ⟨onBoard, more _ listed, rating⟩
  once := posts.once

/-! ## The best at each neighbour -/

/-- The foremost of the movers that rate above zero at a place, with its rating. -/
def favourite (field : Battlefield) (hex : Hex) (moves : MoveMaps) (useTerrain : Bool)
    (place : Direction) : Option (UnitId × ℚ) :=
  if field.board.inBounds (hex.neighbor place) = true then
    Choice.best? ((candidates field moves useTerrain (hex.neighbor place)).filter (eligible []))
  else none

/-- Different movers are foremost at different places. -/
def Unrivalled (field : Battlefield) (hex : Hex) (moves : MoveMaps) (useTerrain : Bool) : Prop :=
  ∀ place place' mover rating rating',
    favourite field hex moves useTerrain place = some (mover, rating) →
    favourite field hex moves useTerrain place' = some (mover, rating') → place = place'

theorem eligible_nil_iff {candidate : UnitId × ℚ} :
    eligible [] candidate = true ↔ 0 < candidate.2 := by
  rw [← not_le, ← Scalar.rat_zero]
  simp [eligible]

theorem foremost_of_favourite {place : Direction} {chosen : UnitId × ℚ}
    (best : favourite field hex moves useTerrain place = some chosen) :
    field.board.inBounds (hex.neighbor place) = true ∧
      Choice.Foremost ((candidates field moves useTerrain (hex.neighbor place)).filter
        (eligible [])) chosen := by
  rw [favourite] at best
  split at best
  case isTrue onBoard =>
    exact ⟨onBoard, Choice.foremost_of_best? (fun candidate _ => le_refl candidate.2) best⟩
  case isFalse =>
    cases best

theorem favourite_nonneg (place : Direction) :
    0 ≤ (favourite field hex moves useTerrain place).elim 0 Prod.snd := by
  cases best : favourite field hex moves useTerrain place with
  | none => exact le_refl _
  | some chosen =>
      have positive := (List.mem_filter.mp (foremost_of_favourite best).2.mem).2
      exact (eligible_nil_iff.mp positive).le

/-- No one who is posted rates higher than the favourite. -/
theorem worth_le_favourite {posted : Direction → Option UnitId}
    (posts : Posts ℚ field hex moves useTerrain posted) (place : Direction) :
    worth field hex useTerrain posted place ≤
      (favourite field hex moves useTerrain place).elim 0 Prod.snd := by
  cases assigned : posted place with
  | none =>
      rw [worth, assigned]
      exact Scalar.rat_zero.le.trans (favourite_nonneg place)
  | some mover =>
      rcases posts.strikes place mover assigned with ⟨onBoard, listed, unit, found, positive⟩
      have member : (mover, (moverRating field unit (hex.neighbor place) useTerrain : ℚ)) ∈
          (candidates field moves useTerrain (hex.neighbor place)).filter (eligible []) :=
        List.mem_filter.mpr ⟨mem_candidates_iff.mpr ⟨listed, unit, found, rfl⟩,
          eligible_nil_iff.mpr (Scalar.rat_zero ▸ positive)⟩
      have value : worth field hex useTerrain posted place =
          (moverRating field unit (hex.neighbor place) useTerrain : ℚ) := by
        rw [worth, assigned, Option.bind_some, found]
        rfl
      rw [value]
      cases best : favourite field hex moves useTerrain place with
      | none =>
          rw [favourite, if_pos onBoard] at best
          rw [(Choice.best?_eq_none_iff _).mp best] at member
          exact absurd member List.not_mem_nil
      | some chosen => exact (foremost_of_favourite best).2.le (le_refl _) member

theorem total_le_favourites {posted : Direction → Option UnitId}
    (posts : Posts ℚ field hex moves useTerrain posted) :
    total field hex useTerrain posted ≤ (Direction.all.map fun place =>
      (favourite field hex moves useTerrain place).elim 0 Prod.snd).sum :=
  List.sum_le_sum fun place _ => worth_le_favourite posts place

/-! ## Favourites that are not rivals -/

theorem eligible_nil_of_eligible {postings : List (Posting ℚ)} {candidate : UnitId × ℚ}
    (suitable : eligible postings candidate = true) : eligible [] candidate = true := by
  rw [eligible, Bool.and_eq_true] at suitable
  simpa [eligible] using suitable.1

theorem filter_eligible (postings : List (Posting ℚ)) (candidates : List (UnitId × ℚ)) :
    candidates.filter (eligible postings) =
      (candidates.filter (eligible [])).filter (eligible postings) := by
  rw [List.filter_filter]
  refine List.filter_congr fun candidate _ => ?_
  cases suitable : eligible postings candidate with
  | false => rfl
  | true => rw [eligible_nil_of_eligible suitable, Bool.and_self]

theorem post_of_favourite_eq_none {postings : List (Posting ℚ)} {place : Direction}
    (nobody : favourite field hex moves useTerrain place = none) :
    post field hex moves useTerrain postings place = postings := by
  rcases post_cases hex moves (rated_rat field useTerrain) postings place with
    ⟨same, -⟩ | ⟨mover, rating, -, onBoard, foremost⟩
  · exact same
  · rw [favourite, if_pos onBoard] at nobody
    have member := foremost.mem
    rw [filter_eligible, (Choice.best?_eq_none_iff _).mp nobody] at member
    exact absurd member List.not_mem_nil

/-- A favourite that was not posted before is posted. -/
theorem post_of_favourite_eq_some {postings : List (Posting ℚ)} {place : Direction}
    {mover : UnitId} {rating : ℚ} (distinct : (postings.map Posting.mover).Nodup)
    (best : favourite field hex moves useTerrain place = some (mover, rating))
    (new : ∀ posting ∈ postings, posting.mover ≠ mover) :
    post field hex moves useTerrain postings place = postings ++ [⟨mover, place, rating⟩] := by
  rcases foremost_of_favourite best with ⟨onBoard, foremost⟩
  have chosen := List.mem_filter.mp foremost.mem
  have suitable : eligible postings (mover, rating) = true := by
    refine (eligible_iff distinct).mpr ⟨?_, ?_⟩
    · rw [Scalar.rat_zero]
      exact not_le.mpr (eligible_nil_iff.mp chosen.2)
    · intro posting member same
      exact absurd same (new posting member)
  rcases post_cases hex moves (rated_rat field useTerrain) postings place with
    ⟨-, nobody⟩ | ⟨mover', rating', result, -, foremost'⟩
  · have refused := nobody onBoard _ chosen.1
    rw [suitable] at refused
    cases refused
  · have remains := foremost.filter suitable
    rw [← filter_eligible] at remains
    cases (Choice.best?_of_foremost foremost').symm.trans (Choice.best?_of_foremost remains)
    rw [result, assign, List.filter_eq_self.mpr]
    intro posting member
    simpa using new posting member

/-- The posting of the favourite at a place. -/
def favouritePosting (field : Battlefield) (hex : Hex) (moves : MoveMaps) (useTerrain : Bool)
    (place : Direction) : Option (Posting ℚ) :=
  (favourite field hex moves useTerrain place).map fun chosen => ⟨chosen.1, place, chosen.2⟩

theorem mem_favouritePostings_iff {places : List Direction} {posting : Posting ℚ} :
    posting ∈ places.filterMap (favouritePosting field hex moves useTerrain) ↔
      posting.place ∈ places ∧ favourite field hex moves useTerrain posting.place =
        some (posting.mover, posting.rating) := by
  simp only [favouritePosting, List.mem_filterMap, Option.map_eq_some_iff]
  constructor
  · rintro ⟨place, member, ⟨mover, rating⟩, best, rfl⟩
    exact ⟨member, best⟩
  · rintro ⟨member, best⟩
    exact ⟨posting.place, member, _, best, rfl⟩

/-- Favourites that are not rivals are posted one after another, and all of them stay. -/
theorem foldl_post_of_unrivalled (unrivalled : Unrivalled field hex moves useTerrain)
    {places : List Direction} (distinct : places.Nodup) :
    places.foldl (post field hex moves useTerrain) [] =
      places.filterMap (favouritePosting field hex moves useTerrain) := by
  induction places using List.reverseRecOn with
  | nil => rfl
  | append_singleton places place ih =>
      rcases List.nodup_append.mp distinct with ⟨earlier, -, apart⟩
      have sound := sound_foldl_post hex moves (rated_rat field useTerrain) earlier
      rw [ih earlier] at sound
      rw [List.foldl_append, List.filterMap_append, ih earlier, List.foldl_cons, List.foldl_nil]
      cases best : favourite field hex moves useTerrain place with
      | none =>
          rw [post_of_favourite_eq_none best]
          simp [favouritePosting, best]
      | some chosen =>
          rcases chosen with ⟨mover, rating⟩
          rw [post_of_favourite_eq_some sound.moversDistinct best]
          · simp [favouritePosting, best]
          · intro posting member same
            rcases mem_favouritePostings_iff.mp member with ⟨listed, earlierBest⟩
            rw [same] at earlierBest
            exact apart place (unrivalled _ _ _ _ _ best earlierBest ▸ listed) place (by simp) rfl

/-- Then the threat is the sum of the best ratings at all neighbours. -/
theorem onto_of_unrivalled (unrivalled : Unrivalled field hex moves useTerrain) :
    (onto field hex moves useTerrain : ℚ) = (Direction.all.map fun place =>
      (favourite field hex moves useTerrain place).elim 0 Prod.snd).sum := by
  have posted : (postings field hex moves useTerrain : List (Posting ℚ)) =
      Direction.all.filterMap (favouritePosting field hex moves useTerrain) :=
    foldl_post_of_unrivalled unrivalled (by decide)
  have sound := sound_postings hex moves (rated_rat field useTerrain)
  rw [onto, Scalar.sum_rat]
  rw [posted] at sound ⊢
  refine congrArg List.sum (List.map_congr_left fun place _ => ?_)
  cases best : favourite field hex moves useTerrain place with
  | none =>
      have empty : (Direction.all.filterMap (favouritePosting field hex moves useTerrain)).find?
          (fun posting => posting.place == place) = none := by
        refine List.find?_eq_none.mpr fun posting member => ?_
        have elsewhere := (mem_favouritePostings_iff.mp member).2
        rintro same
        rw [beq_iff_eq.mp same, best] at elsewhere
        cases elsewhere
      rw [ratingAt, empty]
      exact Scalar.rat_zero
  | some chosen =>
      have member : (⟨chosen.1, place, chosen.2⟩ : Posting ℚ) ∈
          Direction.all.filterMap (favouritePosting field hex moves useTerrain) :=
        mem_favouritePostings_iff.mpr ⟨Direction.mem_all place, best⟩
      exact sound.ratingAt_eq member

theorem onto_le_of_unrivalled (unrivalled : Unrivalled field hex second useTerrain)
    (more : ∀ origin, first.movers origin ⊆ second.movers origin) :
    (onto field hex first useTerrain : ℚ) ≤ onto field hex second useTerrain := by
  rcases exists_total field hex first useTerrain with ⟨posted, posts, sum⟩
  rw [sum, onto_of_unrivalled unrivalled]
  exact total_le_favourites (posts.of_subset more)

/-! ## Only those who are posted -/

/-- Whoever is posted at a place can come there. -/
def addPosted (hex : Hex) (posted : Direction → Option UnitId) (maps : MoveMaps)
    (place : Direction) : MoveMaps :=
  (posted place).elim maps fun mover => maps.addUnit mover [hex.neighbor place]

/-- The maps in which each mover can come to its post only. -/
def postedMaps (hex : Hex) (posted : Direction → Option UnitId) : MoveMaps :=
  Direction.all.foldl (addPosted hex posted) .empty

theorem mem_movers_addPosted_iff {posted : Direction → Option UnitId} {maps : MoveMaps}
    {place : Direction} {origin : Hex} {mover : UnitId} :
    mover ∈ (addPosted hex posted maps place).movers origin ↔ mover ∈ maps.movers origin ∨
      hex.neighbor place = origin ∧ posted place = some mover := by
  rw [addPosted]
  cases assigned : posted place with
  | none => simp
  | some other =>
      rw [Option.elim_some, MoveMaps.movers_addUnit maps other (List.nodup_singleton _),
        List.mem_append]
      refine or_congr_right ?_
      by_cases here : hex.neighbor place = origin
      · simp [here, eq_comm]
      · simp [here, Ne.symm here]

theorem mem_movers_foldl_addPosted_iff {posted : Direction → Option UnitId}
    {places : List Direction} {maps : MoveMaps} {origin : Hex} {mover : UnitId} :
    mover ∈ (places.foldl (addPosted hex posted) maps).movers origin ↔
      mover ∈ maps.movers origin ∨
        ∃ place ∈ places, hex.neighbor place = origin ∧ posted place = some mover := by
  induction places generalizing maps with
  | nil => simp
  | cons place rest ih =>
      rw [List.foldl_cons, ih, mem_movers_addPosted_iff, List.exists_mem_cons_iff, or_assoc]

theorem mem_movers_postedMaps_iff {posted : Direction → Option UnitId} {origin : Hex}
    {mover : UnitId} : mover ∈ (postedMaps hex posted).movers origin ↔
      ∃ place, hex.neighbor place = origin ∧ posted place = some mover := by
  have nobody : mover ∉ MoveMaps.empty.movers origin := by
    simp [MoveMaps.movers, MoveMaps.empty]
  rw [postedMaps, mem_movers_foldl_addPosted_iff, or_iff_right nobody]
  refine exists_congr fun place => ?_
  rw [and_iff_right (Direction.mem_all place)]

theorem posts_postedMaps {posted : Direction → Option UnitId}
    (posts : Posts ℚ field hex moves useTerrain posted) :
    Posts ℚ field hex (postedMaps hex posted) useTerrain posted where
  strikes := by
    intro place mover assigned
    rcases posts.strikes place mover assigned with ⟨onBoard, -, rating⟩
    exact ⟨onBoard, mem_movers_postedMaps_iff.mpr ⟨place, rfl, assigned⟩, rating⟩
  once := posts.once

theorem unrivalled_postedMaps {posted : Direction → Option UnitId}
    (posts : Posts ℚ field hex moves useTerrain posted) :
    Unrivalled field hex (postedMaps hex posted) useTerrain := by
  -- Only who is posted at a place can be the favourite there.
  have poster : ∀ place mover rating,
      favourite field hex (postedMaps hex posted) useTerrain place = some (mover, rating) →
        posted place = some mover := by
    intro place mover rating best
    have member := (List.mem_filter.mp (foremost_of_favourite best).2.mem).1
    rcases mem_movers_postedMaps_iff.mp (mem_candidates_iff.mp member).1 with
      ⟨other, same, assigned⟩
    exact hex.neighbor_injective same ▸ assigned
  intro place place' mover rating rating' best best'
  exact posts.once place place' mover (poster _ _ _ best) (poster _ _ _ best')

/-- Those who are posted, when there is no one else, threaten at least what they rate. -/
theorem total_le_onto_postedMaps {posted : Direction → Option UnitId}
    (posts : Posts ℚ field hex moves useTerrain posted) :
    total field hex useTerrain posted ≤ onto field hex (postedMaps hex posted) useTerrain := by
  rw [onto_of_unrivalled (unrivalled_postedMaps posts)]
  exact total_le_favourites (posts_postedMaps posts)

/-! ## One rating at least -/

theorem worth_le_onto {posted : Direction → Option UnitId}
    (posts : Posts ℚ field hex moves useTerrain posted) (place : Direction) :
    worth field hex useTerrain posted place ≤
      if field.board.inBounds (hex.neighbor place) = true
      then (onto field hex moves useTerrain : ℚ) else 0 := by
  have rated := rated_rat field useTerrain
  have sound := sound_postings hex moves rated
  have nonneg : ∀ rating ∈
      Direction.all.map (ratingAt (postings field hex moves useTerrain)), (0 : ℚ) ≤ rating := by
    intro rating member
    rcases List.mem_map.mp member with ⟨other, -, rfl⟩
    exact Scalar.rat_zero.ge.trans (sound.ratingAt_nonneg rated other)
  have sum : (onto field hex moves useTerrain : ℚ) =
      (Direction.all.map (ratingAt (postings field hex moves useTerrain))).sum :=
    Scalar.sum_rat _
  cases assigned : posted place with
  | none =>
      rw [worth, assigned]
      refine Scalar.rat_zero.le.trans ?_
      split
      · exact sum ▸ List.sum_nonneg nonneg
      · exact le_refl _
  | some mover =>
      rcases posts.strikes place mover assigned with ⟨onBoard, listed, unit, found, positive⟩
      rw [if_pos onBoard, worth, assigned, Option.bind_some, found, Option.elim_some]
      rcases sound.matched place (Direction.mem_all place) onBoard _
        (mem_candidates_iff.mpr ⟨listed, unit, found, rfl⟩) (not_le.mpr positive) with
        ⟨posting, member, le⟩
      refine le.trans ?_
      rw [sum, ← sound.ratingAt_eq member]
      exact List.single_le_sum nonneg _ (List.mem_map_of_mem (Direction.mem_all posting.place))

theorem sum_le_countP_mul {ι : Type} (entries : List ι) (value : ι → ℚ) (counted : ι → Bool)
    (bound : ℚ) (le : ∀ entry, value entry ≤ if counted entry = true then bound else 0) :
    (entries.map value).sum ≤ entries.countP counted * bound := by
  induction entries with
  | nil => simp
  | cons entry rest ih =>
      have first := le entry
      rw [List.map_cons, List.sum_cons, List.countP_cons]
      split at first
      case isTrue counts =>
        rw [if_pos counts]
        push_cast
        linarith
      case isFalse skipped =>
        rw [if_neg skipped]
        push_cast
        linarith

theorem onto_le_mul_onto (more : ∀ origin, first.movers origin ⊆ second.movers origin) :
    (onto field hex first useTerrain : ℚ) ≤
      Direction.all.countP (fun place => field.board.inBounds (hex.neighbor place)) *
        onto field hex second useTerrain := by
  rcases exists_total field hex first useTerrain with ⟨posted, posts, sum⟩
  rw [sum]
  exact sum_le_countP_mul _ _ _ _ (worth_le_onto (posts.of_subset more))

/-! ## More movers -/

/-- No fewer movers ever threaten more than the given ones just when these are posted as well as can
be: no other posting of them is worth more.  It is enough that different movers are foremost at
different neighbours of the hex.  And in any case fewer movers threaten at most as many times more
as the hex has neighbours on the map. -/
theorem onto_of_more_movers (field : Battlefield) (hex : Hex) (useTerrain : Bool)
    (second : MoveMaps) :
    ((∀ first : MoveMaps, (∀ origin, first.movers origin ⊆ second.movers origin) →
        (onto field hex first useTerrain : ℚ) ≤ onto field hex second useTerrain) ↔
      ∀ posted, Posts ℚ field hex second useTerrain posted →
        total field hex useTerrain posted ≤ onto field hex second useTerrain) ∧
    (Unrivalled field hex second useTerrain →
      ∀ first : MoveMaps, (∀ origin, first.movers origin ⊆ second.movers origin) →
        (onto field hex first useTerrain : ℚ) ≤ onto field hex second useTerrain) ∧
    ∀ first : MoveMaps, (∀ origin, first.movers origin ⊆ second.movers origin) →
      (onto field hex first useTerrain : ℚ) ≤
        Direction.all.countP (fun place => field.board.inBounds (hex.neighbor place)) *
          onto field hex second useTerrain := by
  refine ⟨⟨?_, ?_⟩, fun unrivalled first more => onto_le_of_unrivalled unrivalled more,
    fun first more => onto_le_mul_onto more⟩
  · intro monotone posted posts
    refine (total_le_onto_postedMaps posts).trans (monotone _ fun origin mover listed => ?_)
    rcases mem_movers_postedMaps_iff.mp listed with ⟨place, rfl, assigned⟩
    exact (posts.strikes place mover assigned).2.1
  · intro best first more
    rcases exists_total field hex first useTerrain with ⟨posted, posts, sum⟩
    rw [sum]
    exact best posted (posts.of_subset more)

theorem movers_build_subset {pathfinder : Pathfinder} {ids ids' : List UnitId} (more : ids ⊆ ids')
    (origin : Hex) :
    (MoveMaps.build field pathfinder ids).movers origin ⊆
      (MoveMaps.build field pathfinder ids').movers origin := by
  intro mover listed
  rw [MoveMaps.movers_build, List.mem_filter, MoveMaps.mem_activeMovers_iff] at listed ⊢
  exact ⟨⟨more listed.1.1, listed.1.2⟩, listed.2⟩

/-- At the crossroads the two with clubs threaten 16 points; with the one between them, who comes to
the hex of each of them before it goes on, all three threaten 10.5. -/
theorem onto_crossroads_decreases :
    ¬ ∀ (field : Battlefield) (hex : Hex) (useTerrain : Bool) (first second : MoveMaps),
      (∀ origin, first.movers origin ⊆ second.movers origin) →
        (onto field hex first useTerrain : ℚ) ≤ onto field hex second useTerrain := by
  intro monotone
  have le := monotone .crossroads ⟨0, 2⟩ false (.build .crossroads .terrain [⟨1⟩, ⟨2⟩])
    (.build .crossroads .terrain [⟨0⟩, ⟨1⟩, ⟨2⟩]) (movers_build_subset (by decide))
  have fewer : (onto .crossroads ⟨0, 2⟩ (.build .crossroads .terrain [⟨1⟩, ⟨2⟩]) false : ℚ) =
      16 := by
    decide +kernel
  have more : (onto .crossroads ⟨0, 2⟩ (.build .crossroads .terrain [⟨0⟩, ⟨1⟩, ⟨2⟩]) false : ℚ) =
      21 / 2 := by
    decide +kernel
  rw [fewer, more] at le
  norm_num at le

/-- The two with clubs are no rivals, so one of them alone does not threaten more; and all three
together threaten at least a third of what these two do. -/
theorem onto_of_more_movers_crossroads :
    (onto .crossroads ⟨0, 2⟩ (.build .crossroads .terrain [⟨1⟩]) false : ℚ) ≤
        onto .crossroads ⟨0, 2⟩ (.build .crossroads .terrain [⟨1⟩, ⟨2⟩]) false ∧
      (onto .crossroads ⟨0, 2⟩ (.build .crossroads .terrain [⟨1⟩, ⟨2⟩]) false : ℚ) ≤
        3 * onto .crossroads ⟨0, 2⟩ (.build .crossroads .terrain [⟨0⟩, ⟨1⟩, ⟨2⟩]) false := by
  have unrivalled : Unrivalled .crossroads ⟨0, 2⟩
      (.build .crossroads .terrain [⟨1⟩, ⟨2⟩]) false := by
    have apart : ∀ place ∈ Direction.all, ∀ place' ∈ Direction.all,
        (favourite .crossroads ⟨0, 2⟩ (.build .crossroads .terrain [⟨1⟩, ⟨2⟩]) false place).map
          Prod.fst =
        (favourite .crossroads ⟨0, 2⟩ (.build .crossroads .terrain [⟨1⟩, ⟨2⟩]) false place').map
          Prod.fst →
        place = place' ∨ (favourite .crossroads ⟨0, 2⟩
          (.build .crossroads .terrain [⟨1⟩, ⟨2⟩]) false place).isNone = true := by
      decide +kernel
    intro place place' mover rating rating' best best'
    have same := apart place (Direction.mem_all place) place' (Direction.mem_all place')
    rw [best, best'] at same
    simpa using same
  have neighbors : Direction.all.countP (fun place =>
      Battlefield.crossroads.board.inBounds (Hex.neighbor ⟨0, 2⟩ place)) = 3 := by
    decide
  have bound := (onto_of_more_movers .crossroads ⟨0, 2⟩ false
    (.build .crossroads .terrain [⟨0⟩, ⟨1⟩, ⟨2⟩])).2.2
    (.build .crossroads .terrain [⟨1⟩, ⟨2⟩]) (movers_build_subset (by decide))
  rw [neighbors] at bound
  exact ⟨(onto_of_more_movers .crossroads ⟨0, 2⟩ false
    (.build .crossroads .terrain [⟨1⟩, ⟨2⟩])).2.1 unrivalled _ (movers_build_subset (by decide)),
    bound⟩

end Threat
end Hexfield
