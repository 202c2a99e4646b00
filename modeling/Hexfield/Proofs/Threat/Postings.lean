import Hexfield.Proofs.Choice.Foremost
import Hexfield.Proofs.Scalar.Sums
import Hexfield.Threat

namespace Hexfield
namespace Threat

/-!
Who is counted, and from where, when the threat onto a hex is summed up.

At each neighbour of the hex the foremost of those movers is posted that rate above zero there and
not below their own earlier posting.  A mover that comes over leaves its earlier place, so no mover
and no place is ever posted twice.  What a posting is worth is never lost again: a mover that leaves
a place rates at least as well at the next one.  Therefore, as soon as one mover rates above zero
anywhere, something is posted to the end.
-/

variable {α : Type} [Scalar α]

/-- A mover that may be posted: it rates above zero, and not below its own earlier posting. -/
def eligible (postings : List (Posting α)) (candidate : UnitId × α) : Bool :=
  !decide (candidate.2 ≤ 0.0) &&
    (postings.find? fun posting => posting.mover == candidate.1).all fun earlier =>
      decide (earlier.rating ≤ candidate.2)

/-- No unit rates below zero, and every rating is a number. -/
def Rated (α : Type) [Scalar α] (field : Battlefield) (useTerrain : Bool) : Prop :=
  ∀ id unit, field.roster.get? id = some unit →
    ∀ origin, (0.0 : α) ≤ moverRating field unit origin useTerrain

variable {field : Battlefield} {hex : Hex} {moves : MoveMaps} {useTerrain : Bool}

theorem mem_candidates_iff {origin : Hex} {mover : UnitId} {rating : α} :
    (mover, rating) ∈ candidates field moves useTerrain origin ↔
      mover ∈ moves.movers origin ∧ ∃ unit, field.roster.get? mover = some unit ∧
        moverRating field unit origin useTerrain = rating := by
  simp only [candidates, List.mem_filterMap, Option.map_eq_some_iff, Prod.mk.injEq]
  constructor
  · rintro ⟨id, member, unit, found, rfl, rated⟩
    exact ⟨member, unit, found, rated⟩
  · rintro ⟨member, unit, found, rated⟩
    exact ⟨mover, member, unit, found, rfl, rated⟩

theorem Rated.nonneg (rated : Rated α field useTerrain) {origin : Hex} {candidate : UnitId × α}
    (member : candidate ∈ candidates field moves useTerrain origin) : 0.0 ≤ candidate.2 := by
  rcases mem_candidates_iff.mp member with ⟨-, unit, found, rating⟩
  exact rating ▸ rated candidate.1 unit found origin

private theorem find?_eq_some_iff_of_distinct {β γ : Type} [DecidableEq γ] {key : β → γ}
    {entries : List β} (distinct : (entries.map key).Nodup) {sought : γ} {entry : β} :
    entries.find? (fun other => key other == sought) = some entry ↔
      entry ∈ entries ∧ key entry = sought := by
  constructor
  · intro found
    exact ⟨List.mem_of_find?_eq_some found, by simpa using List.find?_some found⟩
  · rintro ⟨member, rfl⟩
    have occurs : (entries.find? fun other => key other == key entry).isSome = true :=
      List.find?_isSome.mpr ⟨entry, member, by simp⟩
    rcases Option.isSome_iff_exists.mp occurs with ⟨other, found⟩
    have same : key other = key entry := by simpa using List.find?_some found
    rw [found, List.inj_on_of_nodup_map distinct (List.mem_of_find?_eq_some found) member same]

theorem eligible_iff {postings : List (Posting α)}
    (distinct : (postings.map Posting.mover).Nodup) {mover : UnitId} {rating : α} :
    eligible postings (mover, rating) = true ↔ ¬ rating ≤ 0.0 ∧
      ∀ earlier ∈ postings, earlier.mover = mover → earlier.rating ≤ rating := by
  rw [eligible, Bool.and_eq_true, Bool.not_eq_true', decide_eq_false_iff_not]
  refine and_congr_right fun _ => ?_
  rw [Option.all_eq_true]
  refine forall_congr' fun earlier => ?_
  rw [find?_eq_some_iff_of_distinct distinct, and_imp, decide_eq_true_eq]

/-! ## One place -/

/-- A candidate displaces the best so far if it is eligible and exceeds it. -/
theorem prefer_eq (postings : List (Posting α)) (best : Option (UnitId × α))
    (candidate : UnitId × α) :
    prefer postings best candidate =
      if eligible postings candidate && !best.any (fun leader => candidate.2 ≤ leader.2)
      then some candidate else best := by
  rcases candidate with ⟨mover, rating⟩
  simp only [prefer, eligible]
  cases best.any fun leader => rating ≤ leader.2 <;>
    by_cases positive : rating ≤ 0.0 <;>
    cases postings.find? fun posting => posting.mover == mover <;> simp [positive]

section Ordered

variable [Scalar.Ordered α]

/-- The mover that is found for a place is the best of those that are eligible. -/
theorem foldl_prefer (postings : List (Posting α)) {candidates : List (UnitId × α)}
    (numbers : ∀ candidate ∈ candidates, candidate.2 ≤ candidate.2) :
    candidates.foldl (prefer postings) none =
      Choice.best? (candidates.filter (eligible postings)) := by
  induction candidates using List.reverseRecOn with
  | nil => rfl
  | append_singleton candidates last ih =>
      have earlier : ∀ candidate ∈ candidates, candidate.2 ≤ candidate.2 := fun candidate member =>
        numbers candidate (List.mem_append_left _ member)
      have number : last.2 ≤ last.2 := numbers last (by simp)
      rw [List.foldl_append, List.filter_append, ih earlier]
      change prefer postings (Choice.best? (candidates.filter (eligible postings))) last = _
      rw [prefer_eq]
      by_cases suitable : eligible postings last = true
      · rw [List.filter_cons_of_pos suitable, List.filter_nil, Choice.best?_concat]
        cases chosen : Choice.best? (candidates.filter (eligible postings)) with
        | none => simp [suitable, Choice.keep]
        | some leader =>
            have member := List.mem_filter.mp (Choice.mem_of_best?_eq_some chosen)
            have order : leader.2 < last.2 ↔ ¬ last.2 ≤ leader.2 := by
              rw [Scalar.Ordered.lt_iff, and_iff_right_iff_imp]
              intro notBack
              exact (Scalar.Ordered.le_total (earlier leader member.1) number).resolve_right notBack
            simp [suitable, Choice.keep, order]
      · rw [List.filter_cons_of_neg suitable, List.filter_nil, List.append_nil]
        simp [suitable]

variable (hex moves) in
/-- What going through one more place does: the foremost of the eligible movers is posted, if there
is one and the place is on the map. -/
theorem post_cases (rated : Rated α field useTerrain) (postings : List (Posting α))
    (place : Direction) :
    (post field hex moves useTerrain postings place = postings ∧
      (field.board.inBounds (hex.neighbor place) = true →
        ∀ candidate ∈ candidates field moves useTerrain (hex.neighbor place),
          eligible postings candidate = false)) ∨
    ∃ mover rating, post field hex moves useTerrain postings place =
        assign postings { mover, place, rating } ∧
      field.board.inBounds (hex.neighbor place) = true ∧
      Choice.Foremost ((candidates field moves useTerrain (hex.neighbor place)).filter
        (eligible postings)) (mover, rating) := by
  have numbers : ∀ candidate ∈ candidates field moves useTerrain (hex.neighbor place),
      candidate.2 ≤ (candidate.2 : α) := fun candidate member =>
    (Scalar.Ordered.numbers_of_le (rated.nonneg member)).2
  simp only [post]
  rw [foldl_prefer postings numbers]
  by_cases onBoard : field.board.inBounds (hex.neighbor place) = true
  · rw [if_pos onBoard]
    cases best : Choice.best? ((candidates field moves useTerrain (hex.neighbor place)).filter
        (eligible postings)) with
    | none =>
        refine Or.inl ⟨rfl, fun _ candidate member => ?_⟩
        have empty := List.filter_eq_nil_iff.mp ((Choice.best?_eq_none_iff _).mp best)
        exact Bool.eq_false_iff.mpr (empty candidate member)
    | some winner =>
        refine Or.inr ⟨winner.1, winner.2, rfl, onBoard, ?_⟩
        exact Choice.foremost_of_best?
          (fun candidate member => numbers candidate (List.mem_filter.mp member).1) best
  · rw [if_neg onBoard]
    exact Or.inl ⟨rfl, fun impossible => absurd impossible onBoard⟩

/-! ## All places -/

/-- The postings after some of the places have been gone through: no mover and no place is posted
twice, every posting is of a mover that rates above zero there, and none that was passed by rates
higher than all who are posted. -/
structure Sound (field : Battlefield) (hex : Hex) (moves : MoveMaps) (useTerrain : Bool)
    (places : List Direction) (postings : List (Posting α)) : Prop where
  moversDistinct : (postings.map Posting.mover).Nodup
  placesDistinct : (postings.map Posting.place).Nodup
  posted : ∀ posting ∈ postings, posting.place ∈ places ∧
    field.board.inBounds (hex.neighbor posting.place) = true ∧
    (posting.mover, posting.rating) ∈
      candidates field moves useTerrain (hex.neighbor posting.place) ∧
    ¬ posting.rating ≤ 0.0
  matched : ∀ place ∈ places, field.board.inBounds (hex.neighbor place) = true →
    ∀ candidate ∈ candidates field moves useTerrain (hex.neighbor place),
      ¬ candidate.2 ≤ (0.0 : α) → ∃ posting ∈ postings, candidate.2 ≤ posting.rating

namespace Sound

variable {places : List Direction} {postings : List (Posting α)} {place : Direction}

theorem number (sound : Sound field hex moves useTerrain places postings)
    (rated : Rated α field useTerrain) {posting : Posting α} (member : posting ∈ postings) :
    posting.rating ≤ posting.rating :=
  (Scalar.Ordered.numbers_of_le (rated.nonneg (sound.posted posting member).2.2.1)).2

/-- A mover that rates above zero at a place but may not be posted there stays where it rates at
least as well. -/
theorem le_of_refused (sound : Sound field hex moves useTerrain places postings)
    (rated : Rated α field useTerrain) {candidate : UnitId × α}
    (member : candidate ∈ candidates field moves useTerrain (hex.neighbor place))
    (positive : ¬ candidate.2 ≤ 0.0) (refused : ¬ eligible postings candidate = true) :
    ∃ posting ∈ postings, candidate.2 ≤ posting.rating := by
  rw [eligible_iff sound.moversDistinct, and_iff_right positive] at refused
  push Not at refused
  rcases refused with ⟨posting, posted, -, higher⟩
  have candidateNumber := (Scalar.Ordered.numbers_of_le (rated.nonneg member)).2
  exact ⟨posting, posted, (Scalar.Ordered.le_total candidateNumber
    (sound.number rated posted)).resolve_right higher⟩

/-- Who was posted is so still, or has come over to where it rates at least as well. -/
theorem exists_assign_le (sound : Sound field hex moves useTerrain places postings)
    (rated : Rated α field useTerrain) {mover : UnitId} {rating : α}
    (noLess : ∀ earlier ∈ postings, earlier.mover = mover → earlier.rating ≤ rating)
    {earlier : Posting α} (member : earlier ∈ postings) :
    ∃ posting ∈ assign postings { mover, place, rating }, earlier.rating ≤ posting.rating := by
  by_cases same : earlier.mover = mover
  · exact ⟨⟨mover, place, rating⟩, by simp [assign], noLess earlier member same⟩
  · refine ⟨earlier, List.mem_append_left _ (List.mem_filter.mpr ⟨member, ?_⟩),
      sound.number rated member⟩
    simpa using same

/-- A place at which no one is posted may be passed by. -/
theorem skip (sound : Sound field hex moves useTerrain places postings)
    (rated : Rated α field useTerrain)
    (nobody : field.board.inBounds (hex.neighbor place) = true →
      ∀ candidate ∈ candidates field moves useTerrain (hex.neighbor place),
        eligible postings candidate = false) :
    Sound field hex moves useTerrain (places ++ [place]) postings where
  moversDistinct := sound.moversDistinct
  placesDistinct := sound.placesDistinct
  posted := by
    intro posting member
    rcases sound.posted posting member with ⟨listed, others⟩
    exact ⟨List.mem_append_left _ listed, others⟩
  matched := by
    intro seen member onBoard candidate candidateMember positive
    rcases List.mem_append.mp member with early | late
    · exact sound.matched seen early onBoard candidate candidateMember positive
    · cases List.mem_singleton.mp late
      exact sound.le_of_refused rated candidateMember positive
        (Bool.eq_false_iff.mp (nobody onBoard candidate candidateMember))

/-- The foremost of the eligible movers may be posted. -/
theorem enlist (sound : Sound field hex moves useTerrain places postings)
    (rated : Rated α field useTerrain) (fresh : place ∉ places) {mover : UnitId} {rating : α}
    (onBoard : field.board.inBounds (hex.neighbor place) = true)
    (foremost : Choice.Foremost ((candidates field moves useTerrain (hex.neighbor place)).filter
      (eligible postings)) (mover, rating)) :
    Sound field hex moves useTerrain (places ++ [place])
      (assign postings { mover, place, rating }) := by
  have chosen := List.mem_filter.mp foremost.mem
  rcases (eligible_iff sound.moversDistinct).mp chosen.2 with ⟨positive, noLess⟩
  have others : ∀ earlier, earlier ∈ postings.filter (fun earlier => earlier.mover != mover) ↔
      earlier ∈ postings ∧ earlier.mover ≠ mover := by simp
  have fewer : (postings.filter fun earlier => earlier.mover != mover).Sublist postings :=
    List.filter_sublist
  refine ⟨?_, ?_, ?_, ?_⟩
  · rw [assign, List.map_append]
    refine List.nodup_append.mpr ⟨(fewer.map _).nodup sound.moversDistinct, by simp, ?_⟩
    intro id member _ new same
    cases List.mem_singleton.mp new
    rcases List.mem_map.mp member with ⟨earlier, stays, rfl⟩
    exact ((others earlier).mp stays).2 same
  · rw [assign, List.map_append]
    refine List.nodup_append.mpr ⟨(fewer.map _).nodup sound.placesDistinct, by simp, ?_⟩
    intro seen member _ new same
    cases List.mem_singleton.mp new
    rcases List.mem_map.mp member with ⟨earlier, stays, rfl⟩
    have seenBefore := (sound.posted earlier ((others earlier).mp stays).1).1
    rw [same] at seenBefore
    exact fresh seenBefore
  · intro posting member
    rcases List.mem_append.mp member with early | late
    · rcases sound.posted posting ((others posting).mp early).1 with ⟨listed, account⟩
      exact ⟨List.mem_append_left _ listed, account⟩
    · cases List.mem_singleton.mp late
      exact ⟨by simp, onBoard, chosen.1, positive⟩
  · intro seen member seenOnBoard candidate candidateMember candidatePositive
    -- Whatever a candidate was matched by before, it is matched by still.
    have lasting : (∃ earlier ∈ postings, candidate.2 ≤ earlier.rating) →
        ∃ posting ∈ assign postings { mover, place, rating }, candidate.2 ≤ posting.rating := by
      rintro ⟨earlier, earlierMember, le⟩
      rcases sound.exists_assign_le rated noLess earlierMember with ⟨posting, posted, le'⟩
      exact ⟨posting, posted, Scalar.Ordered.le_trans le le'⟩
    rcases List.mem_append.mp member with early | late
    · exact lasting (sound.matched seen early seenOnBoard candidate candidateMember
        candidatePositive)
    · cases List.mem_singleton.mp late
      by_cases suitable : eligible postings candidate = true
      · have number := (Scalar.Ordered.numbers_of_le (rated.nonneg chosen.1)).2
        exact ⟨⟨mover, place, rating⟩, by simp [assign],
          foremost.le number (List.mem_filter.mpr ⟨candidateMember, suitable⟩)⟩
      · exact lasting (sound.le_of_refused rated candidateMember candidatePositive suitable)

theorem post (sound : Sound field hex moves useTerrain places postings)
    (rated : Rated α field useTerrain) (fresh : place ∉ places) :
    Sound field hex moves useTerrain (places ++ [place])
      (post field hex moves useTerrain postings place) := by
  rcases post_cases hex moves rated postings place with
    ⟨same, nobody⟩ | ⟨mover, rating, same, onBoard, foremost⟩
  · rw [same]
    exact sound.skip rated nobody
  · rw [same]
    exact sound.enlist rated fresh onBoard foremost

end Sound

variable (hex moves) in
theorem sound_foldl_post (rated : Rated α field useTerrain) {places : List Direction}
    (distinct : places.Nodup) :
    Sound field hex moves useTerrain places
      (places.foldl (post field hex moves useTerrain) ([] : List (Posting α))) := by
  induction places using List.reverseRecOn with
  | nil => exact ⟨by simp, by simp, by simp, by simp⟩
  | append_singleton places place ih =>
      rcases List.nodup_append.mp distinct with ⟨earlier, -, apart⟩
      rw [List.foldl_append]
      exact (ih earlier).post rated fun member => apart place member place (by simp) rfl

variable (hex moves) in
/-- The invariant at the end, when all neighbours have been gone through. -/
theorem sound_postings (rated : Rated α field useTerrain) :
    Sound field hex moves useTerrain Direction.all
      (postings field hex moves useTerrain : List (Posting α)) :=
  sound_foldl_post hex moves rated (by decide)

end Ordered

/-! ## The sum -/

/-- A live mover could strike the hex from a place that is on the map, and rates above zero
there. -/
def Strikes (α : Type) [Scalar α] (field : Battlefield) (hex : Hex) (moves : MoveMaps)
    (useTerrain : Bool) (place : Direction) (mover : UnitId) : Prop :=
  field.board.inBounds (hex.neighbor place) = true ∧ mover ∈ moves.movers (hex.neighbor place) ∧
    ∃ unit, field.roster.get? mover = some unit ∧
      (0.0 : α) < moverRating field unit (hex.neighbor place) useTerrain

/-- Places around a hex are given to movers that could strike from there, and to no mover two. -/
structure Posts (α : Type) [Scalar α] (field : Battlefield) (hex : Hex) (moves : MoveMaps)
    (useTerrain : Bool) (posted : Direction → Option UnitId) : Prop where
  strikes : ∀ place mover, posted place = some mover →
    Strikes α field hex moves useTerrain place mover
  once : ∀ place place' mover, posted place = some mover → posted place' = some mover →
    place = place'

/-- What the mover at a place rates there; zero where no one is. -/
def worth (field : Battlefield) (hex : Hex) (useTerrain : Bool)
    (posted : Direction → Option UnitId) (place : Direction) : α :=
  ((posted place).bind field.roster.get?).elim 0.0 fun unit =>
    moverRating field unit (hex.neighbor place) useTerrain

def posterAt (postings : List (Posting α)) (place : Direction) : Option UnitId :=
  (postings.find? fun posting => posting.place == place).map Posting.mover

variable {places : List Direction} {postings : List (Posting α)}

namespace Sound

theorem ratingAt_eq (sound : Sound field hex moves useTerrain places postings) {posting : Posting α}
    (member : posting ∈ postings) : ratingAt postings posting.place = posting.rating := by
  rw [ratingAt, (find?_eq_some_iff_of_distinct sound.placesDistinct).mpr ⟨member, rfl⟩]

theorem posterAt_eq_some_iff (sound : Sound field hex moves useTerrain places postings)
    {place : Direction} {mover : UnitId} :
    posterAt postings place = some mover ↔
      ∃ posting ∈ postings, posting.place = place ∧ posting.mover = mover := by
  rw [posterAt, Option.map_eq_some_iff]
  refine exists_congr fun posting => ?_
  rw [find?_eq_some_iff_of_distinct sound.placesDistinct, and_assoc]

theorem ratingAt_eq_worth (sound : Sound field hex moves useTerrain places postings)
    (place : Direction) :
    ratingAt postings place = worth field hex useTerrain (posterAt postings) place := by
  cases found : postings.find? fun posting => posting.place == place with
  | none => simp [ratingAt, worth, posterAt, found]
  | some posting =>
      rcases (find?_eq_some_iff_of_distinct sound.placesDistinct).mp found with ⟨member, rfl⟩
      rcases sound.posted posting member with ⟨-, -, candidate, -⟩
      rcases mem_candidates_iff.mp candidate with ⟨-, unit, alive, rating⟩
      simp [ratingAt, worth, posterAt, found, alive, rating]

end Sound

section Additive

variable [Scalar.Additive α]

theorem strikes_iff (rated : Rated α field useTerrain) {place : Direction} {mover : UnitId} :
    Strikes α field hex moves useTerrain place mover ↔
      field.board.inBounds (hex.neighbor place) = true ∧
        ∃ rating : α, (mover, rating) ∈
          candidates field moves useTerrain (hex.neighbor place) ∧ ¬ rating ≤ 0.0 := by
  refine and_congr_right fun _ => ?_
  constructor
  · rintro ⟨member, unit, found, positive⟩
    exact ⟨_, mem_candidates_iff.mpr ⟨member, unit, found, rfl⟩,
      (Scalar.Ordered.lt_iff.mp positive).2⟩
  · rintro ⟨rating, member, positive⟩
    rcases mem_candidates_iff.mp member with ⟨listed, unit, found, rfl⟩
    exact ⟨listed, unit, found, Scalar.Ordered.lt_iff.mpr ⟨rated mover unit found _, positive⟩⟩

namespace Sound

theorem posts (sound : Sound field hex moves useTerrain places postings)
    (rated : Rated α field useTerrain) :
    Posts α field hex moves useTerrain (posterAt postings) where
  strikes := by
    intro place mover assigned
    rcases sound.posterAt_eq_some_iff.mp assigned with ⟨posting, member, rfl, rfl⟩
    rcases sound.posted posting member with ⟨-, onBoard, candidate, positive⟩
    exact (strikes_iff rated).mpr ⟨onBoard, posting.rating, candidate, positive⟩
  once := by
    intro place place' mover first second
    rcases sound.posterAt_eq_some_iff.mp first with ⟨posting, member, rfl, rfl⟩
    rcases sound.posterAt_eq_some_iff.mp second with ⟨posting', member', rfl, same⟩
    rw [List.inj_on_of_nodup_map sound.moversDistinct member' member same]

/-- No rating that is added is below zero, and all of them vanish just when no one could strike. -/
theorem ratingAt_nonneg (sound : Sound field hex moves useTerrain places postings)
    (rated : Rated α field useTerrain) (place : Direction) : 0.0 ≤ ratingAt postings place := by
  cases found : postings.find? fun posting => posting.place == place with
  | none =>
      rw [ratingAt, found]
      exact Scalar.Additive.zero
  | some posting =>
      have member := List.mem_of_find?_eq_some found
      rw [ratingAt, found]
      exact rated.nonneg (sound.posted posting member).2.2.1

theorem ratingAt_nonpos_iff (sound : Sound field hex moves useTerrain Direction.all postings)
    (rated : Rated α field useTerrain) :
    (∀ place, ratingAt postings place ≤ 0.0) ↔
      ¬ ∃ place mover, Strikes α field hex moves useTerrain place mover := by
  constructor
  · rintro vanish ⟨place, mover, strikes⟩
    rcases (strikes_iff rated).mp strikes with ⟨onBoard, rating, candidate, positive⟩
    rcases sound.matched place (Direction.mem_all place) onBoard _ candidate positive with
      ⟨posting, member, -⟩
    have nothing := vanish posting.place
    rw [sound.ratingAt_eq member] at nothing
    exact (sound.posted posting member).2.2.2 nothing
  · intro nobody place
    cases found : postings.find? fun posting => posting.place == place with
    | none =>
        rw [ratingAt, found]
        exact Scalar.Additive.zero
    | some posting =>
        rcases sound.posted posting (List.mem_of_find?_eq_some found) with
          ⟨-, onBoard, candidate, positive⟩
        exact absurd ⟨posting.place, posting.mover,
          (strikes_iff rated).mpr ⟨onBoard, posting.rating, candidate, positive⟩⟩ nobody

end Sound

variable (hex moves) in
/-- The threat is the sum of the ratings of movers that are posted around the hex, each of them
once. -/
theorem exists_posts (rated : Rated α field useTerrain) :
    ∃ posted, Posts α field hex moves useTerrain posted ∧
      (onto field hex moves useTerrain : α) =
        Scalar.sum (Direction.all.map (worth field hex useTerrain posted)) := by
  have sound := sound_postings hex moves rated
  refine ⟨posterAt (postings field hex moves useTerrain), sound.posts rated, ?_⟩
  rw [onto]
  exact congrArg Scalar.sum (List.map_congr_left fun place _ => sound.ratingAt_eq_worth place)

variable (hex moves) in
/-- The threat vanishes just when no mover could strike. -/
theorem onto_beq_zero_iff (rated : Rated α field useTerrain) :
    ((onto field hex moves useTerrain : α) == 0.0) = true ↔
      ¬ ∃ place mover, Strikes α field hex moves useTerrain place mover := by
  have sound := sound_postings hex moves rated
  have nonneg : ∀ term ∈ Direction.all.map (ratingAt (postings field hex moves useTerrain)),
      (0.0 : α) ≤ term := by
    intro term member
    rcases List.mem_map.mp member with ⟨place, -, rfl⟩
    exact sound.ratingAt_nonneg rated place
  rw [onto, Scalar.sum_beq_zero_iff nonneg, ← sound.ratingAt_nonpos_iff rated, List.forall_mem_map]
  exact ⟨fun all place => all place (Direction.mem_all place), fun all place _ => all place⟩

end Additive

end Threat
end Hexfield
