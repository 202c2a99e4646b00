import Hexfield.Proofs.Plan.Findings
import Hexfield.Proofs.Plan.Legality
import Hexfield.Proofs.Plan.Undisturbed

namespace Hexfield

/-!
Every plan that a search returns is legal.

A growth from a sound draft gives the draft back and adds legal plans only.  Each of them is by the
attackers of the draft and at least one more, in this order, and the attacker that joins first tells
apart the plans that are grown from different positions of the pool.  So the whole tree of drafts
never adds two plans by the same attackers in the same order, however the assessments turn out and
whichever of the plans are dropped on the way.  The plans added are recorded as they were assessed,
so what they say of themselves is so.
-/

variable {α ρ : Type}

/-- The attackers are those of a draft, then the one at a position of its pool, and then perhaps
others. -/
def Draft.Precedes (draft : Draft α) (position : Nat) (attackers : List UnitId) : Prop :=
  ∃ id, draft.pool[position]? = some id ∧ (draft.plan.attackers ++ [id]) <+: attackers

theorem Draft.Precedes.eq {draft : Draft α} {position position' : Nat} {attackers : List UnitId}
    (precedes : draft.Precedes position attackers) (precedes' : draft.Precedes position' attackers)
    (distinct : draft.pool.Nodup) : position = position' := by
  rcases precedes with ⟨id, there, begins⟩
  rcases precedes' with ⟨id', there', begins'⟩
  have within : position < draft.pool.length := (List.getElem?_eq_some_iff.mp there).1
  have same : draft.plan.attackers ++ [id] = draft.plan.attackers ++ [id'] := by
    apply (List.prefix_of_prefix_length_le begins begins' _).eq_of_length
    · simp
    · simp
  cases List.append_cancel_left same
  exact (List.getElem?_inj within distinct).mp (there.trans there'.symm)

namespace Search

/-- A growth leaves the draft as it was, lets planning go on, and adds plans of a kind. -/
structure Progress.Grows (first : Context α ρ) (kind : Plan α → Prop)
    (expected : List UnitId → Prop) (before after : Progress α) (now : Context α ρ) : Prop where
  continues : first.Continues now
  draft : after.draft = before.draft
  adds : Findings.Adds first.personality.maxResults kind expected before.findings after.findings

theorem Progress.Grows.unchanged {first now : Context α ρ} {kind : Plan α → Prop}
    {expected : List UnitId → Prop} (continues : first.Continues now) (progress : Progress α) :
    progress.Grows first kind expected progress now :=
  ⟨continues, rfl, .unchanged rfl⟩

/-- Growing from one position after another adds up, if no position comes twice. -/
theorem ensures_foldlM {first now : Context α ρ} {kind : Plan α → Prop}
    {step : Progress α → Nat → Planner α ρ (Progress α)} {draft : Draft α}
    (distinct : draft.pool.Nodup) {positions : List Nat} (nodup : positions.Nodup)
    (each : ∀ position ∈ positions, ∀ {now : Context α ρ} {progress : Progress α},
      first.Continues now → progress.draft = draft →
      (step progress position).Ensures now
        (progress.Grows first kind (draft.Precedes position)))
    (continues : first.Continues now) {progress : Progress α} (same : progress.draft = draft) :
    (positions.foldlM step progress).Ensures now
      (progress.Grows first kind
        fun attackers => ∃ position ∈ positions, draft.Precedes position attackers) := by
  induction positions generalizing now progress with
  | nil => exact Planner.Ensures.pure (.unchanged continues progress)
  | cons position positions ih =>
      rw [List.foldlM_cons]
      apply Planner.Ensures.bind (each position (List.mem_cons_self ..) continues same)
      intro middle now grown
      have others := ih (List.nodup_cons.mp nodup).2
        (fun other member => each other (List.mem_cons_of_mem _ member)) grown.continues
        (grown.draft.trans same)
      apply others.mono
      intro after now grown'
      refine ⟨grown'.continues, grown'.draft.trans grown.draft, ?_⟩
      apply (grown.adds.trans grown'.adds _).mono
      · rintro attackers (precedes | ⟨other, member, precedes⟩)
        · exact ⟨position, List.mem_cons_self .., precedes⟩
        · exact ⟨other, List.mem_cons_of_mem _ member, precedes⟩
      · rintro attackers precedes ⟨other, member, precedes'⟩
        have equal := precedes.eq precedes' distinct
        rw [← equal] at member
        exact (List.nodup_cons.mp nodup).1 member

variable [Scalar α]

/-- A plan is legal and has been rated with a number, and what it says of itself is so. -/
structure Worthy (first : Context α ρ) (target : UnitId) (targetHex : Hex)
    (candidates : List UnitId) (plan : Plan α) : Prop where
  legal : plan.Legal first target targetHex candidates
  number : plan.rating ≤ plan.rating
  truthful : plan.Truthful first

variable [Scalar.Ordered α] [RollSource ρ] {first now : Context α ρ} {target : UnitId}
  {unit : Combatant} {targetHex : Hex} {candidates : List UnitId}

/-- A plan by one attacker more than a draft is recorded, and then others are added that it begins:
all of them come from one position of the pool of the draft. -/
theorem adds_joined {limit : Nat} {kind : Plan α → Prop} {expected : List UnitId → Prop}
    {draft : Draft α} {plan : Plan α} {position : Nat} {id : UnitId} {before after : Findings α}
    (good : kind plan) (there : draft.pool[position]? = some id)
    (joined : plan.attackers = draft.plan.attackers ++ [id])
    (adds : Findings.Adds limit kind expected (before.record limit plan) after)
    (begins : ∀ attackers, expected attackers →
      ∃ other, (plan.attackers ++ [other]) <+: attackers) :
    Findings.Adds limit kind (draft.Precedes position) before after := by
  apply ((Findings.adds_record good before).trans adds _).mono
  · rintro attackers (rfl | expects)
    · exact ⟨id, there, joined ▸ List.prefix_refl _⟩
    · rcases begins attackers expects with ⟨other, longer⟩
      refine ⟨id, there, ?_⟩
      rw [← joined]
      exact (List.prefix_append plan.attackers [other]).trans longer
  · rintro attackers rfl expects
    rcases begins _ expects with ⟨other, longer⟩
    have length := longer.length_le
    rw [List.length_append] at length
    exact Nat.not_succ_le_self _ length

/-- One attacker joins a sound draft and leaves it again; in between the plan is recorded and grown
further, or it is not. -/
theorem ensures_consider (aliveTarget : first.field.roster.get? target = some unit)
    (distinct : candidates.Nodup)
    (alive : ∀ id ∈ candidates, ∃ unit, first.field.roster.get? id = some unit)
    {deepen : α → Progress α → Planner α ρ (Progress α)} {depth : Nat}
    (deepening : ∀ (current : α) {now : Context α ρ} {progress : Progress α},
      first.Continues now → progress.draft.Sound first target targetHex candidates →
      progress.draft.depth = depth + 1 →
      (deepen current progress).Ensures now
        (progress.Grows first (Worthy first target targetHex candidates)
          fun attackers => ∃ position, progress.draft.Precedes position attackers))
    (room : depth + 1 ≤ first.personality.attackDepth) (toExceed : α) (position : Nat)
    (continues : first.Continues now) {progress : Progress α}
    (sound : progress.draft.Sound first target targetHex candidates)
    (deep : progress.draft.depth = depth) :
    (consider assess deepen toExceed progress position).Ensures now
      (progress.Grows first (Worthy first target targetHex candidates)
        (progress.draft.Precedes position)) := by
  have stays : progress.Grows first (Worthy first target targetHex candidates)
      (progress.draft.Precedes position) progress now :=
    .unchanged continues progress
  unfold consider
  cases there : progress.draft.pool[position]? with
  | none => exact Planner.Ensures.pure stays
  | some id =>
      have candidate : id ∈ candidates :=
        sound.everyone.mem_iff.mp (List.mem_append_right _ (List.mem_of_getElem? there))
      rcases alive id candidate with ⟨attacker, aliveAttacker⟩
      rcases continues.get? aliveAttacker with ⟨standing, found⟩
      apply Planner.Ensures.get_bind
      apply Planner.Ensures.ofExcept_bind (Battlefield.unit_eq_ok_iff.mpr found)
      by_cases barred : (!mayJoin { attacker with hex := standing } progress.draft.depth) = true
      · rw [if_pos barred]
        exact Planner.Ensures.pure stays
      · rw [if_neg barred]
        cases best : Approach.best? now id { attacker with hex := standing }
            progress.draft.plan.targetHex progress.draft.taken with
        | none => exact Planner.Ensures.pure stays
        | some approach =>
            have joins : mayJoin attacker progress.draft.depth = true :=
              (Bool.not_eq_false _).mp fun refused => barred (congrArg not refused)
            have committed := continues.sound_commit sound there aliveAttacker found joins best
            have limit : now.personality.maxResults = first.personality.maxResults :=
              congrArg (fun context => context.personality.maxResults) continues.frame
            apply Planner.Ensures.bind (ensures_assess continues (committed.attended aliveTarget))
            rintro plan now ⟨continues, outline, armed, truthful⟩
            have sound' := committed.of_outline outline
            have restored :=
              Draft.release_commit there (Approach.of_best?_eq_some best).1 plan
            have movements := (Prod.mk.inj (Prod.mk.inj outline).2).2
            have deeper : plan.movements.length = depth + 1 := by
              simp [movements, Draft.commit, ← deep, Draft.depth]
            by_cases exceeds : toExceed < plan.rating
            · simp only [if_pos exceeds, limit]
              have worthy : Worthy first target targetHex candidates plan := by
                refine ⟨sound'.legal distinct ?_ ?_ armed, Scalar.Ordered.number_of_lt exceeds,
                  truthful⟩
                · exact Nat.le_trans (Nat.le_add_left 1 depth) (Nat.le_of_eq deeper.symm)
                · exact Nat.le_trans (Nat.le_of_eq deeper) room
              refine Planner.Ensures.bind (deepening _ continues ?_ ?_) ?_
              · exact sound'
              · exact deeper
              rintro after now ⟨continues, draft, adds⟩
              refine Planner.Ensures.pure ⟨continues, ?_, ?_⟩
              · simp only [draft]
                exact restored
              · have joined : plan.attackers = progress.draft.plan.attackers ++ [id] := by
                  simp [Plan.attackers, movements, Draft.commit]
                apply adds_joined worthy there joined adds
                rintro attackers ⟨-, other, -, begins⟩
                exact ⟨other, begins⟩
            · simp only [if_neg exceeds]
              exact Planner.Ensures.pure ⟨continues, restored, .unchanged rfl⟩

/-- A sound draft is grown by no more attackers than a plan may have. -/
theorem ensures_grow (aliveTarget : first.field.roster.get? target = some unit)
    (distinct : candidates.Nodup)
    (alive : ∀ id ∈ candidates, ∃ unit, first.field.roster.get? id = some unit)
    (attackers : Nat) (current : α) (continues : first.Continues now) {progress : Progress α}
    (sound : progress.draft.Sound first target targetHex candidates)
    (room : progress.draft.depth + attackers ≤ first.personality.attackDepth) :
    (grow assess attackers current progress).Ensures now
      (progress.Grows first (Worthy first target targetHex candidates)
        fun attackers => ∃ position, progress.draft.Precedes position attackers) := by
  induction attackers generalizing now current progress with
  | zero => exact Planner.Ensures.pure (.unchanged continues progress)
  | succ attackers ih =>
      have pool : progress.draft.pool.Nodup :=
        (List.nodup_append.mp (sound.everyone.nodup_iff.mpr distinct)).2.1
      have each (toExceed : α) (position : Nat) (now : Context α ρ) (state : Progress α)
          (continues : first.Continues now) (same : state.draft = progress.draft) :
          (consider assess (grow assess attackers) toExceed state position).Ensures now
            (state.Grows first (Worthy first target targetHex candidates)
              (progress.draft.Precedes position)) := by
        rw [← same] at sound room ⊢
        apply ensures_consider aliveTarget distinct alive _ _ _ _ continues sound rfl
        · intro current now grown continues sound depth
          exact ih current continues sound (by omega)
        · omega
      unfold grow
      rcases exceeded : progress.findings.toExceed progress.draft.depth current with
        ⟨toExceed, findings⟩
      have same : findings.plans = progress.findings.plans := by
        rw [← Findings.plans_toExceed progress.findings progress.draft.depth current, exceeded]
      refine Planner.Ensures.mono (ensures_foldlM pool List.nodup_range
        (fun position _ {now state} => each toExceed position now state) continues rfl) ?_
      rintro after now ⟨continues, draft, adds⟩
      refine ⟨continues, draft, (adds.of_plans_eq same).mono ?_⟩
      rintro attackers ⟨position, -, precedes⟩
      exact ⟨position, precedes⟩

omit [Scalar.Ordered α] in
theorem exists_grow_of_attacksOn {plans : List (Plan α)}
    (returned : attacksOn target candidates first = .ok plans now) :
    ∃ unit progress, first.field.roster.get? target = some unit ∧
      grow assess first.personality.attackDepth Plan.rejected
        { draft := Draft.against target unit.hex candidates, findings := {} } first =
          .ok progress now ∧
      plans = ranked progress.findings.plans := by
  rw [attacksOn_apply] at returned
  split at returned
  · cases returned
  · cases found : first.field.unit target with
    | error fault =>
        rw [found] at returned
        cases returned
    | ok unit =>
        rw [found] at returned
        simp only at returned
        split at returned
        · cases returned
        · simp only [Bind.bind, EStateM.bind] at returned
          cases outcome : grow assess first.personality.attackDepth Plan.rejected
              { draft := Draft.against target unit.hex candidates, findings := {} } first with
          | error fault context =>
              rw [outcome] at returned
              cases returned
          | ok progress context =>
              rw [outcome] at returned
              cases returned
              exact ⟨unit, progress, Battlefield.unit_eq_ok_iff.mp found, outcome, rfl⟩

/-- The plans that a search on live units returns are worthy of it, and planning may go on. -/
theorem worthy_of_attacksOn (distinct : candidates.Nodup)
    (alive : ∀ id ∈ candidates, ∃ unit, first.field.roster.get? id = some unit)
    {plans : List (Plan α)} (returned : attacksOn target candidates first = .ok plans now) :
    first.Continues now ∧
      ∃ targetHex, ∀ plan ∈ plans, Worthy first target targetHex candidates plan := by
  rcases exists_grow_of_attacksOn returned with ⟨unit, progress, aliveTarget, grown, rfl⟩
  let start : Progress α := { draft := Draft.against target unit.hex candidates, findings := {} }
  have sound : start.draft.Sound first target unit.hex candidates :=
    Draft.sound_against first target unit.hex candidates
  have room : start.draft.depth + first.personality.attackDepth ≤ first.personality.attackDepth :=
    Nat.le_of_eq (Nat.zero_add _)
  rcases ensures_grow aliveTarget distinct alive _ Plan.rejected (Context.Continues.refl first)
    sound room with ⟨progress', now', outcome, continues, -, adds⟩
  rw [grown] at outcome
  cases outcome
  refine ⟨continues, unit.hex, ?_⟩
  intro plan member
  rcases adds.plans with ⟨added, kept, -, worthy⟩
  exact (worthy plan (kept.subset ((ranked_perm _).mem_iff.mp member))).1

/-- Every plan that a search returns is legal; no two of them are by the same attackers in the same
order; there are no more than the personality keeps, and they are ranked by their ratings.  A search
on live units fails only if its personality allows more attackers than it can keep ratings of. -/
theorem attacksOn_legal (context : Context α ρ)
    (aliveTarget : context.field.roster.get? target = some unit) (someone : candidates ≠ [])
    (distinct : candidates.Nodup)
    (alive : ∀ id ∈ candidates, ∃ unit, context.field.roster.get? id = some unit) :
    (ratingsLimit ≤ context.personality.attackDepth + 1 →
      attacksOn target candidates context =
        .error (.tooDeep context.personality.attackDepth) context) ∧
    (context.personality.attackDepth + 1 < ratingsLimit →
      (attacksOn target candidates).Ensures context fun plans _ =>
        (∀ plan ∈ plans, plan.Legal context target unit.hex candidates) ∧
          (plans.map Plan.attackers).Nodup ∧
          plans.length ≤ context.personality.maxResults ∧
          plans.Pairwise fun better worse => worse.rating ≤ better.rating) := by
  have found := Battlefield.unit_eq_ok_iff.mpr aliveTarget
  have occupied : ¬ candidates.isEmpty = true := fun empty => someone (List.isEmpty_iff.mp empty)
  constructor
  · intro tooDeep
    rw [attacksOn_apply, if_neg occupied, found]
    exact if_pos tooDeep
  · intro shallow
    unfold Planner.Ensures
    rw [attacksOn_apply, if_neg occupied, found]
    simp only
    rw [if_neg (Nat.not_le.mpr shallow)]
    let start : Progress α :=
      { draft := Draft.against target unit.hex candidates, findings := {} }
    have sound : start.draft.Sound context target unit.hex candidates :=
      Draft.sound_against context target unit.hex candidates
    have room : start.draft.depth + context.personality.attackDepth ≤
        context.personality.attackDepth :=
      Nat.le_of_eq (Nat.zero_add _)
    apply Planner.Ensures.bind (ensures_grow aliveTarget distinct alive _ Plan.rejected
      (Context.Continues.refl context) sound room)
    rintro after now ⟨-, -, adds⟩
    apply Planner.Ensures.pure
    rcases adds.plans with ⟨added, kept, nodup, worthy⟩
    have perm := ranked_perm after.findings.plans
    have kept : List.Sublist after.findings.plans added := kept
    refine ⟨?_, ?_, ?_, ?_⟩
    · intro plan member
      exact (worthy plan (kept.subset (perm.mem_iff.mp member))).1.1
    · exact (perm.map _).nodup_iff.mpr ((kept.map _).nodup nodup)
    · rw [perm.length_eq]
      exact adds.limit (Nat.zero_le _)
    · apply pairwise_ranked
      intro plan member
      exact (worthy plan (kept.subset member)).1.2

/-- Asked first, the archer has a plan of its own, and one in which the raider joins it; then the
raider has a plan of its own.  Each of them has to move. -/
theorem attacksOn_raid :
    (attacksOn ⟨1⟩ [⟨2⟩, ⟨0⟩]).Ensures Context.raid fun plans _ =>
      (plans.map Plan.movements).Perm
        [[(⟨2⟩, ⟨1, 1⟩)], [(⟨2⟩, ⟨1, 1⟩), (⟨0⟩, ⟨0, 1⟩)], [(⟨0⟩, ⟨0, 1⟩)]] := by
  have found : (match grow assess 5 Plan.rejected
        { draft := Draft.against ⟨1⟩ ⟨1, 0⟩ [⟨2⟩, ⟨0⟩], findings := {} } Context.raid with
      | .ok progress _ => progress.findings.plans.map Plan.movements
      | .error _ _ => []) =
        [[(⟨2⟩, ⟨1, 1⟩)], [(⟨2⟩, ⟨1, 1⟩), (⟨0⟩, ⟨0, 1⟩)], [(⟨0⟩, ⟨0, 1⟩)]] := by
    decide +kernel
  have grown : (grow assess 5 Plan.rejected
      { draft := Draft.against ⟨1⟩ ⟨1, 0⟩ [⟨2⟩, ⟨0⟩], findings := {} }).Ensures Context.raid
        fun progress _ => progress.findings.plans.map Plan.movements =
          [[(⟨2⟩, ⟨1, 1⟩)], [(⟨2⟩, ⟨1, 1⟩), (⟨0⟩, ⟨0, 1⟩)], [(⟨0⟩, ⟨0, 1⟩)]] := by
    split at found
    · exact ⟨_, _, ‹_›, found⟩
    · cases found
  have guard : Context.raid.field.unit ⟨1⟩ = .ok .guard := rfl
  have depth : Context.raid.personality.attackDepth = 5 := rfl
  unfold Planner.Ensures
  rw [attacksOn_apply, if_neg (by decide), guard, depth]
  simp only
  rw [if_neg (by decide)]
  refine Planner.Ensures.bind grown fun progress now movements => Planner.Ensures.pure ?_
  rw [← movements]
  exact (ranked_perm _).map _

/-- The archer and the raider find three plans against the guard. -/
theorem attacksOn_legal_raid :
    (attacksOn ⟨1⟩ [⟨2⟩, ⟨0⟩]).Ensures Context.raid fun plans _ =>
      plans.length = 3 ∧
        (∃ plan ∈ plans, plan.movements = [(⟨2⟩, ⟨1, 1⟩), (⟨0⟩, ⟨0, 1⟩)]) ∧
        (∀ plan ∈ plans, plan.Legal Context.raid ⟨1⟩ ⟨1, 0⟩ [⟨2⟩, ⟨0⟩]) ∧
        (plans.map Plan.attackers).Nodup ∧ plans.length ≤ 1000 ∧
        plans.Pairwise fun better worse => worse.rating ≤ better.rating := by
  rcases attacksOn_raid with ⟨plans, after, returned, found⟩
  have guard : Context.raid.field.roster.get? ⟨1⟩ = some .guard := rfl
  rcases (attacksOn_legal Context.raid guard (by decide) (by decide)
    Context.exists_unit_raid).2 (by decide) with ⟨plans', now, outcome, legal⟩
  cases returned.symm.trans outcome
  have pair : [(⟨2⟩, ⟨1, 1⟩), (⟨0⟩, ⟨0, 1⟩)] ∈ plans.map Plan.movements :=
    found.mem_iff.mpr (by simp)
  exact ⟨plans, after, returned, (List.length_map _).symm.trans found.length_eq,
    List.mem_map.mp pair, legal⟩

end Search
end Hexfield
