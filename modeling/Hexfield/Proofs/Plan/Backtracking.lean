import Hexfield.Proofs.Plan.Legality
import Hexfield.Proofs.Plan.Undisturbed

namespace Hexfield

/-!
A growth gives back what it borrowed, and passes over no one in its pool.

A level of a growth goes through positions of its pool, while deeper levels take units out of that
very pool and put them back.  So a position means the same unit throughout only because each of them
returns to where it was, and its side of the target becomes free again.  The traced growth takes the
steps of the growth, and notes for each level the draft that it began with, what it found at each
position, and the draft that it left.  The assessment may come to anything, as long as it leaves the
outline of a plan alone and does not fail.
-/

variable {α ρ : Type}

namespace Search

/-! ## A growth with notes -/

/-- What happened at one position of a pool. -/
structure Round (α ρ : Type) where
  position : Nat
  context : Context α ρ
  /-- The draft as it was found. -/
  found : Draft α
  /-- The draft with one more attacker, as it was handed to the assessment, if anyone joined. -/
  joined : Option (Draft α)

/-- A draft that was to be grown, what happened then, and the draft afterwards. -/
structure Level (α ρ : Type) where
  entry : Draft α
  rounds : List (Round α ρ)
  exit : Draft α

section

variable [Scalar α]

/-- `consider`, together with what happened and the levels that it led to. -/
def considerTraced (assess : Plan α → Planner α ρ (Plan α))
    (deepen : α → Progress α → Planner α ρ (Progress α × List (Level α ρ))) (toExceed : α)
    (progress : Progress α) (position : Nat) :
    Planner α ρ (Progress α × Round α ρ × List (Level α ρ)) := do
  let context ← get
  let round (joined : Option (Draft α)) : Round α ρ :=
    { position, context, found := progress.draft, joined }
  match progress.draft.pool[position]? with
  | none => pure (progress, round none, [])
  | some id =>
      let unit ← ofExcept (context.field.unit id)
      if !mayJoin unit progress.draft.depth then pure (progress, round none, [])
      else
        match Approach.best? context id unit progress.draft.plan.targetHex
            progress.draft.taken with
        | none => pure (progress, round none, [])
        | some approach =>
            let (draft, commitment) := progress.draft.commit position id approach
            let plan ← assess draft.plan
            let joined : Progress α := { progress with draft := { draft with plan } }
            let (after, levels) ←
              if toExceed < plan.rating then
                let limit := context.personality.maxResults
                deepen plan.rating
                  { joined with findings := joined.findings.record limit plan }
              else
                pure (joined, [])
            pure ({ after with draft := after.draft.release commitment }, round (some draft),
              levels)

/-- One more position is considered, and noted after those before it. -/
def roundTraced (assess : Plan α → Planner α ρ (Plan α))
    (deepen : α → Progress α → Planner α ρ (Progress α × List (Level α ρ))) (toExceed : α)
    (state : Progress α × List (Round α ρ) × List (Level α ρ)) (position : Nat) :
    Planner α ρ (Progress α × List (Round α ρ) × List (Level α ρ)) := do
  let (progress, round, levels) ← considerTraced assess deepen toExceed state.1 position
  pure (progress, state.2.1 ++ [round], state.2.2 ++ levels)

/-- `grow`, together with the level that it is and all levels below it. -/
def growTraced (assess : Plan α → Planner α ρ (Plan α)) :
    (attackers : Nat) → α → Progress α → Planner α ρ (Progress α × List (Level α ρ))
  | 0, _, progress =>
      pure (progress, [{ entry := progress.draft, rounds := [], exit := progress.draft }])
  | attackers + 1, current, progress => do
      let (toExceed, findings) := progress.findings.toExceed progress.draft.depth current
      let (after, rounds, levels) ← (List.range progress.draft.pool.length).foldlM
        (roundTraced assess (growTraced assess attackers) toExceed)
        ({ progress with findings }, [], [])
      pure (after, { entry := progress.draft, rounds, exit := after.draft } :: levels)

variable {assess : Plan α → Planner α ρ (Plan α)}

theorem fst_considerTraced
    (deepen : α → Progress α → Planner α ρ (Progress α × List (Level α ρ))) (toExceed : α)
    (progress : Progress α) (position : Nat) :
    Prod.fst <$> considerTraced assess deepen toExceed progress position =
      consider assess (fun current progress => Prod.fst <$> deepen current progress) toExceed
        progress position := by
  unfold considerTraced consider
  cases progress.draft.pool[position]? with
  | none => rfl
  | some id =>
      simp only [map_bind]
      refine bind_congr fun context => bind_congr fun unit => ?_
      by_cases barred : (!mayJoin unit progress.draft.depth) = true
      · rw [if_pos barred, if_pos barred]
        rfl
      · rw [if_neg barred, if_neg barred]
        cases Approach.best? context id unit progress.draft.plan.targetHex
            progress.draft.taken with
        | none => rfl
        | some approach =>
            simp only [map_bind]
            refine bind_congr fun plan => ?_
            by_cases exceeds : toExceed < plan.rating
            · simp only [if_pos exceeds, map_bind, bind_map_left, map_pure]
            · simp only [if_neg exceeds, pure_bind, map_pure]

theorem fst_foldlM_roundTraced
    (deepen : α → Progress α → Planner α ρ (Progress α × List (Level α ρ))) (toExceed : α)
    (positions : List Nat) (state : Progress α × List (Round α ρ) × List (Level α ρ)) :
    Prod.fst <$> positions.foldlM (roundTraced assess deepen toExceed) state =
      positions.foldlM
        (consider assess (fun current progress => Prod.fst <$> deepen current progress) toExceed)
        state.1 := by
  induction positions generalizing state with
  | nil => exact map_pure ..
  | cons position positions ih =>
      rw [List.foldlM_cons, List.foldlM_cons, ← fst_considerTraced]
      simp only [roundTraced, map_bind, bind_assoc, pure_bind, bind_map_left, ih]

theorem fst_growTraced (attackers : Nat) (current : α) (progress : Progress α) :
    Prod.fst <$> growTraced assess attackers current progress =
      (grow assess attackers current progress : Planner α ρ _) := by
  induction attackers generalizing current progress with
  | zero => exact map_pure ..
  | succ attackers ih =>
      have deepen : grow assess attackers =
          fun current progress => Prod.fst <$> growTraced assess attackers current progress := by
        funext current progress
        exact (ih current progress).symm
      unfold growTraced grow
      rcases progress.findings.toExceed progress.draft.depth current with ⟨toExceed, findings⟩
      simp only [deepen]
      rw [← fst_foldlM_roundTraced _ _ _ ({ progress with findings }, [], [])]
      simp only [bind_pure_comp, Functor.map_map]

/-! ## What the notes say -/

/-- A draft with one attacker more, the unit at a position of its pool, if that unit may join and
can get to the target. -/
def joinedBy (draft : Draft α) (context : Context α ρ) (position : Nat) (id : UnitId)
    (unit : Combatant) : Option (Draft α) :=
  if mayJoin unit draft.depth then
    (Approach.best? context id unit draft.plan.targetHex draft.taken).map fun approach =>
      (draft.commit position id approach).1
  else
    none

/-- At a position of the pool of a draft, this draft was found, and the unit there joined it if it
could.  No more attackers were in the plan than there may be. -/
structure Round.Fair (limit : Nat) (entry : Draft α) (round : Round α ρ) : Prop where
  found : round.found = entry
  tried : ∃ id unit, entry.pool[round.position]? = some id ∧
    round.context.field.roster.get? id = some unit ∧
    round.joined = joinedBy entry round.context round.position id unit
  depth : ∀ draft, round.joined = some draft → draft.depth ≤ limit

/-- A level gave its draft back.  If the plan had room for one more attacker, it went through all
positions of the pool, each once and in order. -/
structure Level.Thorough (limit : Nat) (level : Level α ρ) : Prop where
  restored : level.exit = level.entry
  everyone : level.entry.depth < limit →
    level.rounds.map (fun round => round.position) = List.range level.entry.pool.length
  full : limit ≤ level.entry.depth → level.rounds = []
  fair : ∀ round ∈ level.rounds, round.Fair limit level.entry

/-- A draft was grown and given back, at this level and at all levels below it. -/
structure Backtracks (limit : Nat) (draft : Draft α) (after : Progress α)
    (levels : List (Level α ρ)) : Prop where
  restored : after.draft = draft
  first : ∃ rounds below, levels = { entry := draft, rounds, exit := after.draft } :: below
  thorough : ∀ level ∈ levels, level.Thorough limit

/-- A position of the pool of a draft has been considered, and the draft is as it was. -/
structure Considered (limit : Nat) (draft : Draft α) (position : Nat)
    (outcome : Progress α × Round α ρ × List (Level α ρ)) : Prop where
  restored : outcome.1.draft = draft
  position : outcome.2.1.position = position
  fair : outcome.2.1.Fair limit draft
  thorough : ∀ level ∈ outcome.2.2, level.Thorough limit

/-- Positions of the pool of a draft have been considered, and it is as it was. -/
structure Toured (limit : Nat) (draft : Draft α) (positions : List Nat)
    (state : Progress α × List (Round α ρ) × List (Level α ρ)) : Prop where
  restored : state.1.draft = draft
  positions : state.2.1.map (fun round => round.position) = positions
  fair : ∀ round ∈ state.2.1, round.Fair limit draft
  thorough : ∀ level ∈ state.2.2, level.Thorough limit

/-! ## Growing with an assessment that does not fail -/

/-- In the contexts that hold, the units of a pool are on the field, and every plan that a draft can
become is assessed.  An assessment leaves the outline of the plan alone and a context that holds. -/
structure Assesses (assess : Plan α → Planner α ρ (Plan α)) (draft : Draft α)
    (holds : Context α ρ → Prop) : Prop where
  live : ∀ context, holds context → ∀ id ∈ draft.pool, ∃ unit,
    context.field.roster.get? id = some unit
  assesses : ∀ context plan, holds context → plan.target = draft.plan.target →
    (∀ id ∈ plan.attackers, id ∈ draft.plan.attackers ++ draft.pool) →
    (assess plan).Ensures context fun assessed after =>
      holds after ∧ assessed.outline = plan.outline

/-- Every draft with so many attackers that can be assessed is given back when it is grown. -/
def Returns (assess : Plan α → Planner α ρ (Plan α)) (holds : Context α ρ → Prop) (limit : Nat)
    (depth : Nat) (deepen : α → Progress α → Planner α ρ (Progress α × List (Level α ρ))) : Prop :=
  ∀ (current : α) {now : Context α ρ} {deeper : Progress α}, holds now →
    Assesses assess deeper.draft holds → deeper.draft.depth = depth →
    (deepen current deeper).Ensures now fun outcome after =>
      holds after ∧ Backtracks limit deeper.draft outcome.1 outcome.2

variable {limit : Nat} {holds : Context α ρ → Prop} {now : Context α ρ} {position : Nat}
  {id : UnitId} {approach : Approach α}

/-- Everyone in a draft that a unit has joined was in the draft or its pool before. -/
theorem mem_of_mem_commit {draft : Draft α} (there : draft.pool[position]? = some id)
    (approach : Approach α) {other : UnitId}
    (member : other ∈ (draft.commit position id approach).1.plan.attackers ++
      (draft.commit position id approach).1.pool) :
    other ∈ draft.plan.attackers ++ draft.pool := by
  simp only [Draft.commit, Plan.attackers, List.map_append, List.map_cons, List.map_nil,
    List.mem_append, List.mem_singleton] at member ⊢
  rcases member with (earlier | rfl) | waiting
  · exact Or.inl earlier
  · exact Or.inr (List.mem_of_getElem? there)
  · exact Or.inr (List.mem_of_mem_eraseIdx waiting)

theorem Assesses.commit {draft : Draft α} (assesses : Assesses assess draft holds)
    (there : draft.pool[position]? = some id) {plan : Plan α}
    (outline : plan.outline = (draft.commit position id approach).1.plan.outline) :
    Assesses assess { (draft.commit position id approach).1 with plan } holds := by
  rcases Prod.mk.inj outline with ⟨target, rest⟩
  have attackers : plan.attackers = (draft.commit position id approach).1.plan.attackers :=
    congrArg (List.map Prod.fst) (Prod.mk.inj rest).2
  constructor
  · intro context held other member
    exact assesses.live context held other (List.mem_of_mem_eraseIdx member)
  · intro context plan' held target' among
    refine assesses.assesses context plan' held (target'.trans target) ?_
    intro other member
    apply mem_of_mem_commit there approach
    rw [← attackers]
    exact among other member

theorem Considered.refused {progress : Progress α} {unit : Combatant}
    (there : progress.draft.pool[position]? = some id)
    (alive : now.field.roster.get? id = some unit)
    (nobody : joinedBy progress.draft now position id unit = none) :
    Considered limit progress.draft position
      (progress, { position, context := now, found := progress.draft, joined := none }, []) := by
  refine ⟨rfl, rfl, ⟨rfl, ⟨id, unit, there, alive, nobody.symm⟩, ?_⟩, ?_⟩
  · intro draft joined
    cases joined
  · intro level member
    cases member

/-- Whoever joins on the best approach is one attacker more. -/
theorem Round.fair_of_joined {draft : Draft α} {unit : Combatant} (room : draft.depth < limit)
    (there : draft.pool[position]? = some id) (alive : now.field.roster.get? id = some unit)
    (joined : joinedBy draft now position id unit = some (draft.commit position id approach).1) :
    Round.Fair limit draft
      { position, context := now, found := draft
        joined := some (draft.commit position id approach).1 } := by
  refine ⟨rfl, ⟨id, unit, there, alive, joined.symm⟩, ?_⟩
  rintro _ ⟨⟩
  simp only [Draft.depth, Draft.commit, List.length_append, List.length_singleton]
  exact room

/-- A draft that has room for one more attacker is given back from a position of its pool, if the
levels below give theirs back. -/
theorem ensures_considerTraced {progress : Progress α}
    (assesses : Assesses assess progress.draft holds) (room : progress.draft.depth < limit)
    {deepen : α → Progress α → Planner α ρ (Progress α × List (Level α ρ))}
    (deepening : Returns assess holds limit (progress.draft.depth + 1) deepen)
    (toExceed : α) (within : position < progress.draft.pool.length) (held : holds now) :
    (considerTraced assess deepen toExceed progress position).Ensures now fun outcome after =>
      holds after ∧ Considered limit progress.draft position outcome := by
  rcases assesses.live now held _ (List.getElem_mem within) with ⟨unit, alive⟩
  have there := List.getElem?_eq_getElem within
  generalize progress.draft.pool[position] = id at there alive
  unfold considerTraced
  apply Planner.Ensures.get_bind
  simp only [there]
  apply Planner.Ensures.ofExcept_bind (Battlefield.unit_eq_ok_iff.mpr alive)
  by_cases barred : (!mayJoin unit progress.draft.depth) = true
  · rw [if_pos barred]
    have nobody : joinedBy progress.draft now position id unit = none :=
      if_neg (by simpa using barred)
    exact Planner.Ensures.pure ⟨held, .refused there alive nobody⟩
  · rw [if_neg barred]
    have tried : joinedBy progress.draft now position id unit =
        (Approach.best? now id unit progress.draft.plan.targetHex progress.draft.taken).map
          fun approach => (progress.draft.commit position id approach).1 :=
      if_pos (by simpa using barred)
    cases best : Approach.best? now id unit progress.draft.plan.targetHex
        progress.draft.taken with
    | none =>
        rw [best] at tried
        exact Planner.Ensures.pure ⟨held, .refused there alive tried⟩
    | some approach =>
        rw [best] at tried
        have fair := Round.fair_of_joined room there alive tried
        refine Planner.Ensures.bind (assesses.assesses now _ held rfl ?_) ?_
        · intro other member
          exact mem_of_mem_commit there approach (List.mem_append_left _ member)
        rintro plan now ⟨held, outline⟩
        have restored :=
          Draft.release_commit there (Approach.of_best?_eq_some best).1 plan
        by_cases exceeds : toExceed < plan.rating
        · simp only [if_pos exceeds]
          refine Planner.Ensures.bind (deepening _ held (assesses.commit there outline) ?_) ?_
          · have movements := (Prod.mk.inj (Prod.mk.inj outline).2).2
            exact (congrArg List.length movements).trans (List.length_append ..)
          rintro ⟨after, levels⟩ now ⟨held, backtracks⟩
          refine Planner.Ensures.pure ⟨held, ?_, rfl, fair, backtracks.thorough⟩
          change after.draft.release _ = progress.draft
          rw [backtracks.restored]
          exact restored
        · simp only [if_neg exceeds]
          refine Planner.Ensures.pure ⟨held, restored, rfl, fair, ?_⟩
          intro level member
          cases member

/-- A draft is given back from one position of its pool after another. -/
theorem ensures_foldlM_roundTraced {draft : Draft α} (assesses : Assesses assess draft holds)
    (room : draft.depth < limit)
    {deepen : α → Progress α → Planner α ρ (Progress α × List (Level α ρ))}
    (deepening : Returns assess holds limit (draft.depth + 1) deepen)
    (toExceed : α) {done : List Nat} (positions : List Nat)
    (within : ∀ position ∈ positions, position < draft.pool.length)
    {state : Progress α × List (Round α ρ) × List (Level α ρ)}
    (toured : Toured limit draft done state) (held : holds now) :
    (positions.foldlM (roundTraced assess deepen toExceed) state).Ensures now fun state after =>
      holds after ∧ Toured limit draft (done ++ positions) state := by
  induction positions generalizing done state now with
  | nil =>
      rw [List.append_nil]
      exact Planner.Ensures.pure ⟨held, toured⟩
  | cons position positions ih =>
      have same := toured.restored
      have considered := ensures_considerTraced (same ▸ assesses) (same ▸ room)
        (same ▸ deepening) toExceed (same ▸ within position (List.mem_cons_self ..)) held
      rw [List.foldlM_cons]
      have next : (roundTraced assess deepen toExceed state position).Ensures now
          fun state after => holds after ∧ Toured limit draft (done ++ [position]) state := by
        refine Planner.Ensures.bind considered ?_
        rintro ⟨after, round, levels⟩ now ⟨held, restored, place, fair, thorough⟩
        refine Planner.Ensures.pure ⟨held, restored.trans same, ?_, ?_, ?_⟩
        · rw [List.map_append, toured.positions, List.map_singleton, place]
        · intro other member
          rcases List.mem_append.mp member with earlier | last
          · exact toured.fair other earlier
          · rw [List.mem_singleton.mp last, ← same]
            exact fair
        · intro level member
          rcases List.mem_append.mp member with earlier | last
          · exact toured.thorough level earlier
          · exact thorough level last
      refine Planner.Ensures.bind next ?_
      rintro state now ⟨held, toured⟩
      rw [List.append_cons]
      exact ih (fun other member => within other (List.mem_cons_of_mem _ member)) toured held

/-- A growth by as many attackers as the plan has room for gives its draft back. -/
theorem ensures_growTraced {progress : Progress α}
    (assesses : Assesses assess progress.draft holds) (attackers : Nat)
    (room : attackers = limit - progress.draft.depth) (current : α) (held : holds now) :
    (growTraced assess attackers current progress).Ensures now fun outcome after =>
      holds after ∧ Backtracks limit progress.draft outcome.1 outcome.2 := by
  induction attackers generalizing now current progress with
  | zero =>
      refine Planner.Ensures.pure ⟨held, rfl, ⟨[], [], rfl⟩, ?_⟩
      intro level member
      cases List.mem_singleton.mp member
      refine ⟨rfl, ?_, fun _ => rfl, ?_⟩
      · intro space
        exact absurd room.symm (Nat.sub_ne_zero_of_lt space)
      · intro round member
        cases member
  | succ attackers ih =>
      have space : progress.draft.depth < limit := by omega
      unfold growTraced
      rcases progress.findings.toExceed progress.draft.depth current with ⟨toExceed, findings⟩
      have start : Toured limit progress.draft []
          (({ progress with findings }, [], []) :
            Progress α × List (Round α ρ) × List (Level α ρ)) := by
        refine ⟨rfl, rfl, ?_, ?_⟩
        · intro round member
          cases member
        · intro level member
          cases member
      refine Planner.Ensures.bind (ensures_foldlM_roundTraced assesses space ?_ toExceed _ ?_ start
        held) ?_
      · intro current now deeper held assesses depth
        exact ih assesses (by omega) current held
      · exact fun position member => List.mem_range.mp member
      rintro ⟨after, rounds, levels⟩ now ⟨held, restored, positions, fair, thorough⟩
      refine Planner.Ensures.pure ⟨held, restored, ⟨rounds, levels, rfl⟩, ?_⟩
      intro level member
      rcases List.mem_cons.mp member with rfl | below
      · exact ⟨restored, fun _ => positions, fun full => absurd space (Nat.not_lt.mpr full), fair⟩
      · exact thorough level below

end

/-! ## The growth of a search -/

variable [Scalar α]

/-- A growth up to the number of attackers that a plan may have returns.  It leaves the draft as it
was, and goes through the whole pool at each level that has room for one more attacker. -/
def GivesBack (assess : Plan α → Planner α ρ (Plan α)) (context : Context α ρ) (draft : Draft α)
    (current : α) (findings : Findings α) : Prop :=
  ∃ after levels now,
    growTraced assess (context.personality.attackDepth - draft.depth) current
        { draft, findings } context = .ok (after, levels) now ∧
      grow assess (context.personality.attackDepth - draft.depth) current
        { draft, findings } context = .ok after now ∧
      Backtracks context.personality.attackDepth draft after levels

theorem givesBack_of_assesses {assess : Plan α → Planner α ρ (Plan α)} {context : Context α ρ}
    {draft : Draft α} {holds : Context α ρ → Prop} (assesses : Assesses assess draft holds)
    (held : holds context) (current : α) (findings : Findings α) :
    GivesBack assess context draft current findings := by
  have start : Assesses assess ({ draft, findings } : Progress α).draft holds := assesses
  rcases ensures_growTraced start _ rfl current held with
    ⟨⟨after, levels⟩, now, traced, -, backtracks⟩
  refine ⟨after, levels, now, traced, ?_, backtracks⟩
  rw [← fst_growTraced]
  change EStateM.map Prod.fst _ context = _
  unfold EStateM.map
  rw [traced]

/-- On live units the assessment of the search does not fail, whatever rolls are drawn. -/
theorem assesses_assess [RollSource ρ] {context : Context α ρ} {draft : Draft α}
    (present : draft.plan.Present context)
    (live : ∀ id ∈ draft.pool, ∃ unit, context.field.roster.get? id = some unit) :
    Assesses assess draft (context.Proceeds fun _ _ => True) := by
  constructor
  · intro now proceeds id waiting
    rcases live id waiting with ⟨unit, alive⟩
    exact (proceeds.get? alive).imp' (fun hex => { unit with hex }) fun _ there => there
  · intro now plan proceeds target among
    have present' : plan.Present context := by
      refine ⟨by rw [target]; exact present.target, ?_⟩
      intro id member
      rcases List.mem_append.mp (among id member) with earlier | waiting
      · exact present.attackers id earlier
      · exact live id waiting
    have anywhere : ∀ movement ∈ plan.movements,
        context.field.MayStand (fun _ _ => True) movement :=
      fun _ _ _ _ => Or.inr trivial
    apply (ensures_assess_of_present proceeds present' anywhere).mono
    rintro assessed after ⟨continued, outline, -⟩
    exact ⟨continued, outline⟩

/-- A growth gives back the draft that it was given: its plan, its pool in the same order, and the
sides taken.  On the way, each level whose plan may have one more attacker considers every position
of its pool once and in order, each of them on the draft that the level began with, and no plan is
assessed with more attackers than it may have.  This is so for every assessment that does not fail
and does not change what a plan is about, and that of the search is one as long as the target and
the attackers are on the field. -/
theorem grow_backtracks [RollSource ρ] (context : Context α ρ) (draft : Draft α) (current : α)
    (findings : Findings α) :
    (∀ (assess : Plan α → Planner α ρ (Plan α)) (holds : Context α ρ → Prop),
        Assesses assess draft holds → holds context →
        GivesBack assess context draft current findings) ∧
      (draft.plan.Present context →
        (∀ id ∈ draft.pool, ∃ unit, context.field.roster.get? id = some unit) →
        GivesBack assess context draft current findings) := by
  constructor
  · intro assess holds assesses held
    exact givesBack_of_assesses assesses held current findings
  · intro present live
    exact givesBack_of_assesses (assesses_assess present live) (Context.Proceeds.refl _ context)
      current findings

/-- First the archer joins a plan against the guard, then the raider joins it, and no one is left;
then the raider joins alone, and the archer is considered but finds no better plan. -/
theorem grow_backtracks_raid :
    ∃ after levels now,
      growTraced assess 5 Plan.rejected
          { draft := Draft.against ⟨1⟩ ⟨1, 0⟩ [⟨2⟩, ⟨0⟩], findings := {} } Context.raid =
        .ok (after, levels) now ∧
      after.draft = Draft.against ⟨1⟩ ⟨1, 0⟩ [⟨2⟩, ⟨0⟩] ∧
      levels.map (fun level => level.rounds.map fun round => round.position) =
        [[0, 1], [0], [], [0]] := by
  have present : (Draft.against ⟨1⟩ ⟨1, 0⟩ [⟨2⟩, ⟨0⟩] : Draft Float).plan.Present Context.raid :=
    ⟨⟨.guard, rfl⟩, nofun⟩
  have rounds : (match growTraced assess 5 Plan.rejected
        { draft := Draft.against ⟨1⟩ ⟨1, 0⟩ [⟨2⟩, ⟨0⟩], findings := {} } Context.raid with
      | .ok (_, levels) _ =>
          levels.map fun level => level.rounds.map fun round => round.position
      | .error _ _ => []) = [[0, 1], [0], [], [0]] := by
    decide +kernel
  rcases (grow_backtracks Context.raid _ Plan.rejected {}).2 present
    Context.exists_unit_raid with ⟨after, levels, now, traced, -, backtracks⟩
  have traced : growTraced assess 5 Plan.rejected
      { draft := Draft.against ⟨1⟩ ⟨1, 0⟩ [⟨2⟩, ⟨0⟩], findings := {} } Context.raid =
        .ok (after, levels) now := traced
  rw [traced] at rounds
  exact ⟨after, levels, now, traced, backtracks.restored, rounds⟩

end Search
end Hexfield
