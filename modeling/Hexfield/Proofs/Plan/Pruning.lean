import Hexfield.Proofs.Plan.Findings
import Hexfield.Proofs.Plan.Legality
import Hexfield.Proofs.Plan.Logbook
import Hexfield.Proofs.Plan.Undisturbed

namespace Hexfield
namespace Search

/-!
Which plans a search records, and with which it goes no further.

A plan is recorded exactly if it rates higher than every plan recorded before it with one attacker
less; one with a single attacker has to exceed a rejection.  The search does not look this up.  It
fixes a rating when it begins to grow a plan, and keeps to it while plans with more attackers come
and go.  The log shows that it may: until the plan has been grown in every way, every plan assessed
has more attackers than it, so nothing that the rating depends on is recorded in the meantime.
Assessments may come to anything, also to ratings that compare with nothing.
-/

variable {α ρ : Type}

/-! ## What a log says of ratings -/

/-- A plan of so many attackers was recorded. -/
structure Recorded (visits : List (Visit α)) (attackers : Nat) (plan : Plan α) : Prop where
  noted : { plan, recorded := true } ∈ visits
  attackers : plan.movements.length = attackers

variable {visits added : List (Visit α)} {attackers depth depths : Nat} {plan : Plan α}

theorem recorded_append_iff :
    Recorded (visits ++ added) attackers plan ↔
      Recorded visits attackers plan ∨ Recorded added attackers plan := by
  constructor
  · rintro ⟨noted, length⟩
    exact (List.mem_append.mp noted).imp (⟨·, length⟩) (⟨·, length⟩)
  · rintro (⟨noted, length⟩ | ⟨noted, length⟩)
    · exact ⟨List.mem_append_left _ noted, length⟩
    · exact ⟨List.mem_append_right _ noted, length⟩

/-- Where no such plan is added, none was recorded since. -/
theorem recorded_append_iff_left (absent : ∀ plan, ¬ Recorded added attackers plan) :
    Recorded (visits ++ added) attackers plan ↔ Recorded visits attackers plan := by
  rw [recorded_append_iff, or_iff_left_iff_imp]
  exact fun recorded => absurd recorded (absent plan)

theorem not_recorded_of_length_ne
    (others : ∀ visit ∈ added, visit.plan.movements.length ≠ attackers) :
    ∀ plan, ¬ Recorded added attackers plan :=
  fun _ recorded => others _ recorded.noted recorded.attackers

theorem not_recorded_singleton {visit : Visit α}
    (different : visit.recorded = false ∨ visit.plan.movements.length ≠ attackers) :
    ∀ plan, ¬ Recorded [visit] attackers plan := by
  rintro plan ⟨noted, length⟩
  cases List.mem_singleton.mp noted
  rcases different with unrecorded | other
  · cases unrecorded
  · exact other length

variable [Scalar α]

/-- The highest rating among the plans of so many attackers that were recorded. -/
structure Highest (visits : List (Visit α)) (attackers : Nat) (bar : α) : Prop where
  attained : ∃ plan, Recorded visits attackers plan ∧ plan.rating = bar
  bounds : ∀ plan, Recorded visits attackers plan → plan.rating ≤ bar

/-- What a plan has to exceed that has one attacker more than `depth`. -/
def Threshold (visits : List (Visit α)) (depth : Nat) (bar : α) : Prop :=
  match depth with
  | 0 => bar = Plan.rejected
  | depth + 1 => Highest visits (depth + 1) bar

theorem Highest.number {bar : α} (highest : Highest visits attackers bar) : bar ≤ bar := by
  rcases highest.attained with ⟨plan, recorded, rfl⟩
  exact highest.bounds plan recorded

theorem Highest.append {bar : α} (highest : Highest visits attackers bar)
    (absent : ∀ plan, ¬ Recorded added attackers plan) :
    Highest (visits ++ added) attackers bar := by
  constructor
  · rcases highest.attained with ⟨plan, recorded, rated⟩
    exact ⟨plan, (recorded_append_iff_left absent).mpr recorded, rated⟩
  · intro plan recorded
    exact highest.bounds plan ((recorded_append_iff_left absent).mp recorded)

theorem Threshold.append {bar : α} (threshold : Threshold visits depth bar)
    (deeper : ∀ visit ∈ added, depth < visit.plan.movements.length) :
    Threshold (visits ++ added) depth bar := by
  cases depth with
  | zero => exact threshold
  | succ depth =>
      apply Highest.append threshold
      exact not_recorded_of_length_ne fun visit member => Nat.ne_of_gt (deeper visit member)

/-- What became of a plan was right after the plans that were assessed before it. -/
structure Sanctioned (before : List (Visit α)) (visit : Visit α) : Prop where
  rule : ∃ depth bar, visit.plan.movements.length = depth + 1 ∧ Threshold before depth bar ∧
    (visit.recorded = true ↔ bar < visit.plan.rating)
  /-- The plan that it was grown from was recorded. -/
  grown : ∀ depth, visit.plan.movements.length = depth + 2 →
    ∃ shorter, Recorded before (depth + 1) shorter ∧
      shorter.movements = visit.plan.movements.dropLast

/-- What became of each plan was right. -/
def Disciplined (visits : List (Visit α)) : Prop :=
  ∀ before visit, before ++ [visit] <+: visits → Sanctioned before visit

theorem disciplined_nil : Disciplined ([] : List (Visit α)) := by
  intro before visit starts
  have length := starts.length_le
  simp at length

theorem Disciplined.concat (disciplined : Disciplined visits) {visit : Visit α}
    (sanctioned : Sanctioned visits visit) : Disciplined (visits ++ [visit]) := by
  intro before visit' starts
  rcases List.prefix_concat_iff.mp starts with same | earlier
  · rcases List.append_inj' same rfl with ⟨rfl, last⟩
    cases last
    exact sanctioned
  · exact disciplined before visit' earlier

/-! ## What the findings know of the log -/

/-- For every number of attackers below `depths`, the findings have the highest rating recorded, and
all plans that they keep were recorded. -/
structure Books (depths : Nat) (findings : Findings α) (visits : List (Visit α)) : Prop where
  known : ∀ attackers best, 1 ≤ attackers → attackers < depths →
    findings.bestOf[attackers]? = some best → Highest visits attackers best
  unknown : ∀ attackers, 1 ≤ attackers → attackers < depths →
    findings.bestOf[attackers]? = none → ∀ plan, ¬ Recorded visits attackers plan
  kept : ∀ plan ∈ findings.plans, { plan, recorded := true } ∈ visits

theorem books_nil (depths : Nat) : Books depths ({} : Findings α) [] := by
  refine ⟨?_, ?_, ?_⟩
  · intro attackers best _ _ found
    simp at found
  · rintro attackers _ _ _ plan ⟨noted, -⟩
    cases noted
  · intro plan member
    cases member

namespace Books

variable {findings : Findings α}

/-- The highest ratings stay as they are for all numbers of attackers of which no plan is added. -/
theorem append (books : Books depths findings visits)
    (absent : ∀ plan, ¬ Recorded added attackers plan) (positive : 1 ≤ attackers)
    (within : attackers < depths) :
    (∀ best, findings.bestOf[attackers]? = some best → Highest (visits ++ added) attackers best) ∧
      (findings.bestOf[attackers]? = none →
        ∀ plan, ¬ Recorded (visits ++ added) attackers plan) := by
  constructor
  · intro best found
    exact (books.known attackers best positive within found).append absent
  · intro found plan recorded
    exact books.unknown attackers positive within found plan
      ((recorded_append_iff_left absent).mp recorded)

theorem skip (books : Books depths findings visits) (plan : Plan α) :
    Books depths findings (visits ++ [{ plan, recorded := false }]) := by
  have unrecorded : ∀ attackers plan', ¬ Recorded [{ plan, recorded := false }] attackers plan' :=
    fun attackers => not_recorded_singleton (Or.inl rfl)
  refine ⟨?_, ?_, ?_⟩
  · intro attackers best positive within
    exact (books.append (unrecorded attackers) positive within).1 best
  · intro attackers positive within
    exact (books.append (unrecorded attackers) positive within).2
  · exact fun plan' member => List.mem_append_left _ (books.kept plan' member)

theorem kept_record (books : Books depths findings visits) (limit : Nat) (plan : Plan α) :
    ∀ plan' ∈ (findings.record limit plan).plans,
      { plan := plan', recorded := true } ∈ visits ++ [{ plan, recorded := true }] := by
  intro plan' member
  have among : plan' ∈ findings.plans ++ [plan] := by
    unfold Findings.record at member
    simp only at member
    split at member
    · exact (Findings.dropWorst_sublist _).subset member
    · exact member
  rcases List.mem_append.mp among with earlier | last
  · exact List.mem_append_left _ (books.kept plan' earlier)
  · rw [List.mem_singleton.mp last]
    exact List.mem_append_right _ (List.mem_singleton.mpr rfl)

/-- A plan with as many attackers as any may have is recorded, and its rating is of no more use. -/
theorem record_last (books : Books depths findings visits) (limit : Nat)
    (length : plan.movements.length = depths) :
    Books depths (findings.record limit plan) (visits ++ [{ plan, recorded := true }]) := by
  have others : ∀ attackers, attackers < depths →
      ∀ plan', ¬ Recorded [{ plan, recorded := true }] attackers plan' :=
    fun attackers within => not_recorded_singleton (Or.inr (length ▸ Nat.ne_of_gt within))
  refine ⟨?_, ?_, books.kept_record limit plan⟩
  · intro attackers best positive within
    exact (books.append (others attackers within) positive within).1 best
  · intro attackers positive within
    exact (books.append (others attackers within) positive within).2

end Books

theorem toExceed_succ (findings : Findings α) (depth : Nat) (current : α) :
    findings.toExceed (depth + 1) current =
      let best :=
        match findings.bestOf[depth + 1]? with
        | some known => Scalar.larger known current
        | none => current
      (best, { findings with bestOf := findings.bestOf.insert (depth + 1) best }) :=
  if_neg (Nat.succ_ne_zero depth)

variable [Scalar.Numeric α]

/-- The rating that is fixed when a plan of so many attackers begins to be grown, right after it was
recorded, is the highest of all recorded so far. -/
theorem Books.highest_toExceed {findings : Findings α} (books : Books depths findings visits)
    (within : depth + 1 < depths) (length : plan.movements.length = depth + 1)
    (number : plan.rating ≤ plan.rating) (limit : Nat) :
    Highest (visits ++ [{ plan, recorded := true }]) (depth + 1)
      ((findings.record limit plan).toExceed (depth + 1) plan.rating).1 := by
  have last : Recorded (visits ++ [{ plan, recorded := true }]) (depth + 1) plan :=
    ⟨List.mem_append_right _ (List.mem_singleton.mpr rfl), length⟩
  -- A bound on the ratings before and on the new one is a bound on all.
  have bounded : ∀ bar, (∀ plan', Recorded visits (depth + 1) plan' → plan'.rating ≤ bar) →
      plan.rating ≤ bar → ∀ plan', Recorded (visits ++ [{ plan, recorded := true }]) (depth + 1)
        plan' → plan'.rating ≤ bar := by
    intro bar before now plan' recorded
    rcases recorded_append_iff.mp recorded with earlier | ⟨noted, -⟩
    · exact before plan' earlier
    · cases List.mem_singleton.mp noted
      exact now
  rw [toExceed_succ]
  change Highest _ _ (match findings.bestOf[depth + 1]? with
    | some known => Scalar.larger known plan.rating
    | none => plan.rating)
  cases found : findings.bestOf[depth + 1]? with
  | none =>
      refine ⟨⟨plan, last, rfl⟩, bounded _ ?_ number⟩
      intro plan' recorded
      exact absurd recorded (books.unknown (depth + 1) (Nat.succ_pos depth) within found plan')
  | some known =>
      have highest := books.known (depth + 1) known (Nat.succ_pos depth) within found
      rcases Scalar.larger_cases highest.number number with ⟨stays, no⟩ | ⟨rises, le⟩
      · simp only [stays]
        refine ⟨?_, bounded _ highest.bounds no⟩
        rcases highest.attained with ⟨plan', recorded, rated⟩
        exact ⟨plan', recorded_append_iff.mpr (Or.inl recorded), rated⟩
      · simp only [rises]
        refine ⟨⟨plan, last, rfl⟩, bounded _ ?_ number⟩
        exact fun plan' recorded => Scalar.Ordered.le_trans (highest.bounds plan' recorded) le

theorem Books.toExceed {findings : Findings α} (books : Books depths findings visits)
    (within : depth + 1 < depths) (length : plan.movements.length = depth + 1)
    (number : plan.rating ≤ plan.rating) (limit : Nat) :
    Books depths ((findings.record limit plan).toExceed (depth + 1) plan.rating).2
      (visits ++ [{ plan, recorded := true }]) := by
  have highest := books.highest_toExceed within length number limit
  have others : ∀ attackers, depth + 1 ≠ attackers →
      ∀ plan', ¬ Recorded [{ plan, recorded := true }] attackers plan' :=
    fun attackers different => not_recorded_singleton (Or.inr (length ▸ different))
  have bestOf : ∀ attackers : Nat,
      ((findings.record limit plan).toExceed (depth + 1) plan.rating).2.bestOf[attackers]? =
        if depth + 1 = attackers then
          some ((findings.record limit plan).toExceed (depth + 1) plan.rating).1
        else findings.bestOf[attackers]? := by
    intro attackers
    rw [toExceed_succ]
    simp only [Std.ExtTreeMap.getElem?_insert, Std.compare_eq_iff_eq]
    rfl
  refine ⟨?_, ?_, ?_⟩
  · intro attackers best positive inside found
    rw [bestOf] at found
    by_cases same : depth + 1 = attackers
    · rw [if_pos same] at found
      cases found
      exact same ▸ highest
    · rw [if_neg same] at found
      exact (books.append (others attackers same) positive inside).1 best found
  · intro attackers positive inside found
    rw [bestOf] at found
    by_cases same : depth + 1 = attackers
    · rw [if_pos same] at found
      cases found
    · rw [if_neg same] at found
      exact (books.append (others attackers same) positive inside).2 found
  · rw [Findings.plans_toExceed]
    exact books.kept_record limit plan

/-! ## Growing a plan -/

/-- Growing a draft gives the draft back.  It logs plans of more attackers only, each of which was
treated as it should be, and the findings know their ratings. -/
structure Deepened (depths : Nat) (before : Progress α) (visits : List (Visit α))
    (after : Progress α) (visits' : List (Visit α)) : Prop where
  draft : after.draft = before.draft
  deeper : ∃ added, visits' = visits ++ added ∧
    ∀ visit ∈ added, before.draft.depth < visit.plan.movements.length
  disciplined : Disciplined visits'
  books : Books depths after.findings visits'

omit [Scalar.Numeric α] in
theorem Deepened.unchanged {progress : Progress α} (disciplined : Disciplined visits)
    (books : Books depths progress.findings visits) :
    Deepened depths progress visits progress visits := by
  refine ⟨rfl, ⟨[], (List.append_nil visits).symm, ?_⟩, disciplined, books⟩
  intro visit member
  cases member

omit [Scalar.Numeric α] in
theorem Deepened.trans {before middle after : Progress α} {visits visits' visits'' : List (Visit α)}
    (first : Deepened depths before visits middle visits')
    (second : Deepened depths middle visits' after visits'') :
    Deepened depths before visits after visits'' := by
  rcases first.deeper with ⟨added, rfl, deeper⟩
  rcases second.deeper with ⟨added', rfl, deeper'⟩
  refine ⟨second.draft.trans first.draft, ⟨added ++ added', List.append_assoc .., ?_⟩,
    second.disciplined, second.books⟩
  intro visit member
  rcases List.mem_append.mp member with earlier | later
  · exact deeper visit earlier
  · rw [← first.draft]
    exact deeper' visit later

/-- A draft may be grown as long as its plan was recorded, unless there is no one in it. -/
def Rooted (draft : Draft α) (visits : List (Visit α)) : Prop :=
  draft.depth ≠ 0 →
    ∃ shorter, Recorded visits draft.depth shorter ∧ shorter.movements = draft.plan.movements

omit [Scalar α] [Scalar.Numeric α] in
theorem Rooted.append {draft : Draft α} (rooted : Rooted draft visits) (added : List (Visit α)) :
    Rooted draft (visits ++ added) := by
  intro someone
  rcases rooted someone with ⟨shorter, recorded, same⟩
  exact ⟨shorter, recorded_append_iff.mpr (Or.inl recorded), same⟩

/-- What growing a plan further has to achieve, right after it was recorded. -/
def Deepens (depths : Nat) (deepen : α → Progress α → LoggedPlanner α ρ (Progress α))
    (depth : Nat) : Prop :=
  ∀ (context : Context α ρ) (visits : List (Visit α)) (findings : Findings α) (draft : Draft α)
    (limit : Nat), draft.depth = depth + 1 → draft.plan.rating ≤ draft.plan.rating →
    Books depths findings visits →
    Disciplined (visits ++ [{ plan := draft.plan, recorded := true }]) →
    (deepen draft.plan.rating { draft, findings := findings.record limit draft.plan }).Leads
      (context, visits ++ [{ plan := draft.plan, recorded := true }])
      (Deepened depths { draft, findings := findings.record limit draft.plan }
        (visits ++ [{ plan := draft.plan, recorded := true }])) Disciplined

variable {assess : Plan α → Planner α ρ (Plan α)} {context : Context α ρ}

omit [Scalar.Numeric α] in
/-- A plan by one attacker more is treated as it should be if its rating is held against the right
one. -/
theorem sanctioned_of_threshold {toExceed : α} {draft : Draft α} {joined : UnitId × Hex}
    {recorded : Bool} (threshold : Threshold visits draft.depth toExceed)
    (rooted : Rooted draft visits) (movements : plan.movements = draft.plan.movements ++ [joined])
    (treated : recorded = true ↔ toExceed < plan.rating) :
    Sanctioned visits { plan, recorded } := by
  have length : plan.movements.length = draft.depth + 1 := by
    rw [movements, List.length_append]
    rfl
  refine ⟨⟨draft.depth, toExceed, length, threshold, treated⟩, ?_⟩
  intro depth same
  have deep : draft.depth = depth + 1 := by
    simp only at same
    omega
  rcases rooted (by omega) with ⟨shorter, noted, equal⟩
  refine ⟨shorter, deep ▸ noted, ?_⟩
  rw [equal, movements, List.dropLast_concat]

/-- One attacker joins a draft and leaves it again; the plan in between is recorded exactly if it
exceeds the rating fixed before. -/
theorem leads_considerLogged
    (assessing : ∀ plan, (assess plan).Yields fun assessed => assessed.outline = plan.outline)
    {deepen : α → Progress α → LoggedPlanner α ρ (Progress α)} {progress : Progress α}
    (deepening : Deepens depths deepen progress.draft.depth) {toExceed : α} (position : Nat)
    (threshold : Threshold visits progress.draft.depth toExceed)
    (rooted : Rooted progress.draft visits) (disciplined : Disciplined visits)
    (books : Books depths progress.findings visits) :
    (considerLogged assess deepen toExceed progress position).Leads (context, visits)
      (Deepened depths progress visits) Disciplined := by
  have stays := Deepened.unchanged disciplined books
  unfold considerLogged
  cases there : progress.draft.pool[position]? with
  | none => exact LoggedPlanner.Leads.pure stays
  | some id =>
      refine LoggedPlanner.Leads.ofPlanner_bind_any disciplined ?_
      intro context' context
      refine LoggedPlanner.Leads.ofPlanner_bind_any disciplined ?_
      intro unit context
      by_cases barred : (!mayJoin unit progress.draft.depth) = true
      · simp only [if_pos barred]
        exact LoggedPlanner.Leads.pure stays
      · simp only [if_neg barred]
        cases best : Approach.best? context' id unit progress.draft.plan.targetHex
            progress.draft.taken with
        | none => exact LoggedPlanner.Leads.pure stays
        | some approach =>
            refine LoggedPlanner.Leads.ofPlanner_bind disciplined (assessing _) ?_
            intro plan context outline
            have movements : plan.movements =
                progress.draft.plan.movements ++ [(id, approach.hex)] :=
              (Prod.mk.inj (Prod.mk.inj outline).2).2
            have length : plan.movements.length = progress.draft.depth + 1 := by
              rw [movements, List.length_append]
              rfl
            have restored :=
              Draft.release_commit there (Approach.of_best?_eq_some best).1 plan
            by_cases exceeds : toExceed < plan.rating
            · simp only [if_pos exceeds]
              apply LoggedPlanner.Leads.note_bind
              have sanctioned := sanctioned_of_threshold threshold rooted movements
                (iff_of_true rfl exceeds)
              refine LoggedPlanner.Leads.bind (deepening context visits progress.findings
                { (progress.draft.commit position id approach).1 with plan } _ length
                (Scalar.Ordered.number_of_lt exceeds) books (disciplined.concat sanctioned)) ?_
              rintro after context visits' ⟨draft, ⟨added, rfl, deeper⟩, disciplined, books⟩
              refine LoggedPlanner.Leads.pure ⟨?_, ⟨_, List.append_assoc .., ?_⟩, disciplined,
                books⟩
              · simp only [draft]
                exact restored
              · intro visit member
                rcases List.mem_append.mp member with first | later
                · rw [List.mem_singleton.mp first, length]
                  exact Nat.lt_succ_self _
                · have deep : progress.draft.depth + 1 < visit.plan.movements.length := by
                    rw [← length]
                    exact deeper visit later
                  exact Nat.lt_of_succ_lt deep
            · simp only [if_neg exceeds]
              apply LoggedPlanner.Leads.note_bind
              have sanctioned : Sanctioned visits { plan, recorded := false } :=
                sanctioned_of_threshold threshold rooted movements
                  (iff_of_false Bool.false_ne_true exceeds)
              refine LoggedPlanner.Leads.pure ⟨restored, ⟨_, rfl, ?_⟩,
                disciplined.concat sanctioned, books.skip plan⟩
              intro visit member
              rw [List.mem_singleton.mp member, length]
              exact Nat.lt_succ_self _

/-- All attackers of the pool join in their turn, and the rating fixed before stays the right
one. -/
theorem leads_foldlM
    (assessing : ∀ plan, (assess plan).Yields fun assessed => assessed.outline = plan.outline)
    {deepen : α → Progress α → LoggedPlanner α ρ (Progress α)} {progress : Progress α}
    (deepening : Deepens depths deepen progress.draft.depth) {toExceed : α} (positions : List Nat)
    (threshold : Threshold visits progress.draft.depth toExceed)
    (rooted : Rooted progress.draft visits) (disciplined : Disciplined visits)
    (books : Books depths progress.findings visits) :
    (positions.foldlM (considerLogged assess deepen toExceed) progress).Leads (context, visits)
      (Deepened depths progress visits) Disciplined := by
  induction positions generalizing context visits progress with
  | nil => exact LoggedPlanner.Leads.pure (Deepened.unchanged disciplined books)
  | cons position positions ih =>
      rw [List.foldlM_cons]
      refine LoggedPlanner.Leads.bind
        (leads_considerLogged assessing deepening position threshold rooted disciplined books) ?_
      intro middle context visits' first
      rcases first.deeper with ⟨added, rfl, deeper⟩
      have same := first.draft
      refine (ih (same ▸ deepening) (same ▸ threshold.append deeper) (same ▸ rooted.append added)
        first.disciplined first.books).mono (fun _ _ second => first.trans second)
        fun _ kept => kept

/-- A plan is grown by any number of attackers as it should be, if the findings know the ratings of
all plans with fewer attackers than that. -/
theorem deepens_growLogged
    (assessing : ∀ plan, (assess plan).Yields fun assessed => assessed.outline = plan.outline)
    (attackers depth : Nat) :
    Deepens (depth + 1 + attackers) (growLogged assess attackers) depth := by
  induction attackers generalizing depth with
  | zero =>
      intro context visits findings draft limit deep number books disciplined
      exact LoggedPlanner.Leads.pure (.unchanged disciplined (books.record_last limit deep))
  | succ attackers ih =>
      intro context visits findings draft limit deep number books disciplined
      have within : depth + 1 < depth + 1 + (attackers + 1) := by omega
      have deepening : Deepens (depth + 1 + (attackers + 1)) (growLogged assess attackers)
          draft.depth := by
        rw [deep, ← Nat.add_assoc, Nat.add_right_comm (depth + 1) attackers 1]
        exact ih (depth + 1)
      have highest := books.highest_toExceed within deep number limit
      have books' := books.toExceed within deep number limit
      rcases exceeded : (findings.record limit draft.plan).toExceed (depth + 1) draft.plan.rating
        with ⟨toExceed, findings'⟩
      rw [exceeded] at highest books'
      have threshold : Threshold (visits ++ [{ plan := draft.plan, recorded := true }]) draft.depth
          toExceed := by
        rw [deep]
        exact highest
      have rooted : Rooted draft (visits ++ [{ plan := draft.plan, recorded := true }]) :=
        fun _ => ⟨draft.plan, ⟨List.mem_append_right _ (List.mem_singleton.mpr rfl), rfl⟩, rfl⟩
      unfold growLogged
      simp only [deep, exceeded]
      refine (leads_foldlM assessing deepening _ threshold rooted disciplined books').mono ?_
        fun _ kept => kept
      rintro after visits' ⟨same, deeper, disciplined, books⟩
      exact ⟨same, deeper, disciplined, books⟩

/-- A search begins with an empty log. -/
theorem leads_growLogged_against
    (assessing : ∀ plan, (assess plan).Yields fun assessed => assessed.outline = plan.outline)
    (attackers : Nat) (target : UnitId) (targetHex : Hex) (candidates : List UnitId) :
    (growLogged assess attackers Plan.rejected
        { draft := Draft.against target targetHex candidates, findings := {} }).Leads (context, [])
      (fun after visits =>
        Disciplined visits ∧ ∀ plan ∈ after.findings.plans, { plan, recorded := true } ∈ visits)
      Disciplined := by
  cases attackers with
  | zero => exact LoggedPlanner.Leads.pure ⟨disciplined_nil, (books_nil 0).kept⟩
  | succ attackers =>
      let start : Progress α :=
        { draft := Draft.against target targetHex candidates, findings := {} }
      have threshold : Threshold [] start.draft.depth (Plan.rejected : α) := rfl
      have noOne : Rooted start.draft [] := fun someone => absurd rfl someone
      have deepening : Deepens (0 + 1 + attackers) (growLogged assess attackers)
          start.draft.depth :=
        deepens_growLogged assessing attackers 0
      refine (leads_foldlM assessing deepening _ threshold noOne disciplined_nil
        (books_nil _)).mono ?_ fun _ kept => kept
      rintro after visits ⟨-, -, disciplined, books⟩
      exact ⟨disciplined, books.kept⟩

/-! ## The search -/

omit [Scalar.Numeric α] in
theorem Sanctioned.exceeds [Scalar.Ordered α] {visit : Visit α}
    (sanctioned : Sanctioned visits visit) (recorded : visit.recorded = true) :
    visit.plan.rating ≤ visit.plan.rating ∧
      (visit.plan.movements.length = 1 → Plan.rejected < visit.plan.rating) ∧
      ∀ depth, visit.plan.movements.length = depth + 2 →
        ∃ shorter, Recorded visits (depth + 1) shorter ∧
          shorter.movements = visit.plan.movements.dropLast ∧
          shorter.rating < visit.plan.rating := by
  rcases sanctioned.rule with ⟨depth, bar, length, threshold, treated⟩
  have exceeds := treated.mp recorded
  refine ⟨Scalar.Ordered.number_of_lt exceeds, ?_, ?_⟩
  · intro alone
    cases Nat.succ.inj (length.symm.trans alone)
    exact threshold ▸ exceeds
  · intro shallower several
    cases Nat.succ.inj (length.symm.trans several)
    rcases sanctioned.grown shallower several with ⟨shorter, noted, movements⟩
    exact ⟨shorter, noted, movements,
      Scalar.Ordered.lt_of_le_of_lt (Highest.bounds threshold shorter noted) exceeds⟩

omit [Scalar.Numeric α] in
/-- Two zeros may both be the threshold, but nothing exceeds one of them and not the other. -/
theorem Threshold.lt_iff [Scalar.Ordered α] {bar bar' rating : α}
    (threshold : Threshold visits depth bar) (threshold' : Threshold visits depth bar') :
    bar < rating ↔ bar' < rating := by
  cases depth with
  | zero => rw [show bar = bar' from threshold.trans threshold'.symm]
  | succ depth =>
      rcases threshold.attained with ⟨plan, recorded, rfl⟩
      rcases threshold'.attained with ⟨plan', recorded', rfl⟩
      have le := threshold'.bounds plan recorded
      have le' := threshold.bounds plan' recorded'
      exact ⟨Scalar.Ordered.lt_of_le_of_lt le', Scalar.Ordered.lt_of_le_of_lt le⟩

theorem leads_attacksOnLogged [RollSource ρ] (target : UnitId) (candidates : List UnitId)
    (context : Context α ρ) :
    (attacksOnLogged target candidates).Leads (context, [])
      (fun plans visits => Disciplined visits ∧ ∀ plan ∈ plans, { plan, recorded := true } ∈ visits)
      Disciplined := by
  unfold attacksOnLogged
  by_cases noOne : candidates.isEmpty = true
  · rw [if_pos noOne]
    exact disciplined_nil
  · rw [if_neg noOne]
    refine LoggedPlanner.Leads.ofPlanner_bind_any disciplined_nil ?_
    intro context' context
    refine LoggedPlanner.Leads.ofPlanner_bind_any disciplined_nil ?_
    intro unit context
    by_cases tooDeep : ratingsLimit ≤ context'.personality.attackDepth + 1
    · simp only [if_pos tooDeep]
      exact disciplined_nil
    · simp only [if_neg tooDeep]
      refine LoggedPlanner.Leads.bind
        (leads_growLogged_against yields_assess _ target unit.hex candidates) ?_
      rintro after context visits ⟨disciplined, kept⟩
      refine LoggedPlanner.Leads.pure ⟨disciplined, ?_⟩
      intro plan member
      exact kept plan ((ranked_perm after.findings.plans).mem_iff.mp member)

/-- A plan that is assessed is recorded exactly if it exceeds the highest rating of all plans with
one attacker less that were recorded before it, or a rejection if it has a single attacker.  So a
recorded plan is rated with something that equals itself, and higher than the plan that it was grown
from.  This is said of the log of a search, whether the search succeeds or not; the plans it returns
are recorded ones. -/
theorem attacksOn_prunes [RollSource ρ] (target : UnitId) (candidates : List UnitId)
    (context : Context α ρ) :
    forget (attacksOnLogged target candidates (context, [])) =
        attacksOn target candidates context ∧
      (∀ before visit, before ++ [visit] <+: (attacksOnLogged target candidates).visits context →
        (∃ depth, visit.plan.movements.length = depth + 1 ∧ (∃ bar, Threshold before depth bar) ∧
          ∀ bar, Threshold before depth bar →
            (visit.recorded = true ↔ bar < visit.plan.rating)) ∧
        (visit.recorded = true →
          (visit.plan.rating == visit.plan.rating) = true ∧
            (visit.plan.movements.length = 1 → Plan.rejected < visit.plan.rating) ∧
            ∀ depth, visit.plan.movements.length = depth + 2 →
              ∃ shorter, Recorded before (depth + 1) shorter ∧
                shorter.movements = visit.plan.movements.dropLast ∧
                shorter.rating < visit.plan.rating)) ∧
      ∀ plans after, attacksOn target candidates context = .ok plans after →
        ∀ plan ∈ plans, (plan.rating == plan.rating) = true ∧
          { plan, recorded := true } ∈ (attacksOnLogged target candidates).visits context := by
  have shadows : (attacksOnLogged target candidates : LoggedPlanner α ρ _).Shadows
      (attacksOn target candidates) :=
    shadows_attacksOnLogged target candidates
  have leads := leads_attacksOnLogged target candidates context
  have disciplined : Disciplined ((attacksOnLogged target candidates).visits context) :=
    (leads.mono (fun _ _ led => led.1) fun _ kept => kept).of_visits
  refine ⟨shadows (context, []), ?_, ?_⟩
  · intro before visit starts
    have sanctioned := disciplined before visit starts
    constructor
    · rcases sanctioned.rule with ⟨depth, bar, length, threshold, treated⟩
      exact ⟨depth, length, ⟨bar, threshold⟩,
        fun bar' threshold' => treated.trans (threshold.lt_iff threshold')⟩
    · intro recorded
      rcases sanctioned.exceeds recorded with ⟨number, others⟩
      exact ⟨Scalar.Numeric.beq_self number, others⟩
  · intro plans after returned plan member
    have noted := (leads.of_returned shadows returned).2 plan member
    rcases List.append_of_mem noted with ⟨before, later, visited⟩
    have starts : before ++ [{ plan, recorded := true }] <+:
        (attacksOnLogged target candidates).visits context := by
      rw [visited]
      exact ⟨later, List.append_assoc ..⟩
    have number := ((disciplined before _ starts).exceeds rfl).1
    exact ⟨Scalar.Numeric.beq_self number, noted⟩

/-- The archer's plan is recorded, and so is the one in which the raider joins it, which rates
higher.  The raider's own plan is recorded too, but when the archer joins it, that does not exceed
the better of the two plans with one attacker, and is given up. -/
theorem attacksOn_prunes_raid :
    ∃ archer pair raider pair',
      (attacksOnLogged ⟨1⟩ [⟨2⟩, ⟨0⟩]).visits Context.raid = [archer, pair, raider, pair'] ∧
        pair.plan.movements = [(⟨2⟩, ⟨1, 1⟩), (⟨0⟩, ⟨0, 1⟩)] ∧
        pair'.plan.movements = [(⟨0⟩, ⟨0, 1⟩), (⟨2⟩, ⟨1, 1⟩)] ∧
        Plan.rejected < archer.plan.rating ∧ archer.plan.rating < pair.plan.rating ∧
        (∃ bar, Threshold [archer, pair, raider] 1 bar) ∧
        ∀ bar, Threshold [archer, pair, raider] 1 bar → ¬ bar < pair'.plan.rating := by
  have told : ((attacksOnLogged ⟨1⟩ [⟨2⟩, ⟨0⟩]).visits Context.raid).map
      (fun visit => (visit.recorded, visit.plan.movements)) =
        [(true, [(⟨2⟩, ⟨1, 1⟩)]), (true, [(⟨2⟩, ⟨1, 1⟩), (⟨0⟩, ⟨0, 1⟩)]), (true, [(⟨0⟩, ⟨0, 1⟩)]),
          (false, [(⟨0⟩, ⟨0, 1⟩), (⟨2⟩, ⟨1, 1⟩)])] := by
    decide +kernel
  simp only [List.map_eq_cons_iff, List.map_eq_nil_iff, Prod.mk.injEq] at told
  rcases told with ⟨archer, _, visited, ⟨noted, alone⟩, pair, _, rfl, ⟨noted', together⟩, raider, _,
    rfl, -, pair', _, rfl, ⟨unnoted, together'⟩, rfl⟩
  have prunes := (attacksOn_prunes ⟨1⟩ [⟨2⟩, ⟨0⟩] Context.raid).2.1
  rw [visited] at prunes
  rcases (prunes [] archer (by simp)).2 noted with ⟨-, exceeds, -⟩
  rcases (prunes [archer] pair (by simp)).2 noted' with ⟨-, -, grown⟩
  rcases grown 0 (by rw [together]; rfl) with ⟨shorter, recorded, -, exceeds'⟩
  have first : shorter = archer.plan := congrArg Visit.plan (List.mem_singleton.mp recorded.1)
  rcases (prunes [archer, pair, raider] pair' (by simp)).1 with ⟨depth, length, some, unexceeded⟩
  rw [together'] at length
  cases length
  refine ⟨archer, pair, raider, pair', visited, together, together', exceeds (by rw [alone]; rfl),
    first ▸ exceeds', some, fun bar threshold exceeded => ?_⟩
  cases unnoted.symm.trans ((unexceeded bar threshold).mpr exceeded)

end Search
end Hexfield
