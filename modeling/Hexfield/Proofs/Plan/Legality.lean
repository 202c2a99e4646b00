import Mathlib.Data.List.Nodup
import Mathlib.Data.List.Perm.Basic
import Hexfield.Proofs.Plan.Assessment

namespace Hexfield

/-!
Which plans are legal, and that a draft stays so when an attacker joins.

A draft is sound if its attackers and its pool are the candidates, each once, and each attacker can
strike from a side of the target that is its own.  An attacker joins on the best approach that it
has, which is a side not yet taken, on a hex that it can get to.  When it leaves again, the draft is
what it was before.
-/

variable {α ρ : Type}

/-- A unit can strike at a hex from where a movement brings it: it is active and has a weapon for an
attack, and the movement ends beside the hex, on the board, where the unit stands already or can end
its move.  If the roster is consistent, no other unit stands there. -/
structure Context.CanStrike (context : Context α ρ) (targetHex : Hex) (movement : UnitId × Hex)
    (unit : Combatant) : Prop where
  alive : context.field.roster.get? movement.1 = some unit
  active : unit.incapacitated = false
  initiates : unit.canInitiate = true
  adjacent : movement.2 ∈ targetHex.neighbors
  inBounds : context.field.board.inBounds movement.2 = true
  reached : unit.hex = movement.2 ∨ context.ownMoves.reaches movement.1 movement.2 = true
  free : context.field.roster.Consistent → ∀ other unit',
    context.field.roster.get? other = some unit' → unit'.hex = movement.2 → other = movement.1

/-- A plan against a target that candidates can carry out on a field as it stands. -/
structure Plan.Legal (context : Context α ρ) (target : UnitId) (targetHex : Hex)
    (candidates : List UnitId) (plan : Plan α) : Prop where
  sameTarget : plan.target = target
  sameHex : plan.targetHex = targetHex
  nonempty : 1 ≤ plan.movements.length
  depth : plan.movements.length ≤ context.personality.attackDepth
  attackers : plan.attackers.Nodup
  candidates : ∀ id ∈ plan.attackers, id ∈ candidates
  hexes : (plan.movements.map Prod.snd).Nodup
  strikes : ∀ movement ∈ plan.movements, ∃ unit, context.CanStrike targetHex movement unit
  /-- Only the first attacker may have a weapon that slows. -/
  slow : ∀ (position : Nat) (id : UnitId) (hex : Hex) (unit : Combatant),
    plan.movements[position]? = some (id, hex) → context.field.roster.get? id = some unit →
    unit.wields .slow = true → position = 0
  armed : plan.Armed context.field

/-! ## Sound drafts -/

/-- The attackers of a draft can strike, each from a side of the target of its own, and those who
are not in the draft are in its pool. -/
structure Draft.Sound (context : Context α ρ) (target : UnitId) (targetHex : Hex)
    (candidates : List UnitId) (draft : Draft α) : Prop where
  sameTarget : draft.plan.target = target
  sameHex : draft.plan.targetHex = targetHex
  everyone : (draft.plan.attackers ++ draft.pool).Perm candidates
  sides : draft.plan.movements.map Prod.snd = draft.taken.reverse.map targetHex.neighbor
  distinct : draft.taken.Nodup
  strikes : ∀ movement ∈ draft.plan.movements, ∃ unit, context.CanStrike targetHex movement unit
  slow : ∀ (position : Nat) (id : UnitId) (hex : Hex) (unit : Combatant),
    draft.plan.movements[position]? = some (id, hex) → context.field.roster.get? id = some unit →
    unit.wields .slow = true → position = 0

namespace Draft

variable {context : Context α ρ} {target : UnitId} {targetHex : Hex} {candidates : List UnitId}
  {draft : Draft α}

theorem sound_against [Scalar α] (context : Context α ρ) (target : UnitId) (targetHex : Hex)
    (candidates : List UnitId) :
    (against target targetHex candidates : Draft α).Sound context target targetHex candidates := by
  refine ⟨rfl, rfl, List.Perm.refl _, rfl, List.nodup_nil, ?_, ?_⟩
  · intro movement member
    cases member
  · intro position id hex unit there
    cases there

namespace Sound

theorem attended (sound : draft.Sound context target targetHex candidates) {unit : Combatant}
    (alive : context.field.roster.get? target = some unit) : draft.plan.Attended context := by
  refine ⟨⟨unit, by rw [sound.sameTarget]; exact alive⟩, ?_, ?_⟩
  · intro movement member
    rcases sound.strikes movement member with ⟨attacker, strikes⟩
    exact ⟨attacker, strikes.alive, strikes.initiates⟩
  · intro movement member attacker alive
    rcases sound.strikes movement member with ⟨attacker', strikes⟩
    have same := alive.symm.trans strikes.alive
    cases same
    exact strikes.reached.imp_left Eq.symm

/-- The soundness of a draft says nothing of its plan but the target and the movements. -/
theorem of_outline (sound : draft.Sound context target targetHex candidates) {plan : Plan α}
    (same : plan.outline = draft.plan.outline) :
    Sound context target targetHex candidates { draft with plan } := by
  rcases Prod.mk.inj same with ⟨target, rest⟩
  rcases Prod.mk.inj rest with ⟨targetHex, movements⟩
  have attackers : plan.attackers = draft.plan.attackers :=
    congrArg (List.map Prod.fst) movements
  refine ⟨target.trans sound.sameTarget, targetHex.trans sound.sameHex, ?_, ?_, sound.distinct,
    ?_, ?_⟩
  · simp only [attackers]
    exact sound.everyone
  · simp only [movements]
    exact sound.sides
  · simp only [movements]
    exact sound.strikes
  · simp only [movements]
    exact sound.slow

theorem legal (sound : draft.Sound context target targetHex candidates)
    (distinct : candidates.Nodup) (nonempty : 1 ≤ draft.depth)
    (depth : draft.depth ≤ context.personality.attackDepth)
    (armed : draft.plan.Armed context.field) :
    draft.plan.Legal context target targetHex candidates := by
  have nodup : (draft.plan.attackers ++ draft.pool).Nodup :=
    sound.everyone.nodup_iff.mpr distinct
  refine ⟨sound.sameTarget, sound.sameHex, nonempty, depth, (List.nodup_append.mp nodup).1, ?_, ?_,
    sound.strikes, sound.slow, armed⟩
  · intro id member
    exact sound.everyone.mem_iff.mp (List.mem_append_left _ member)
  · rw [sound.sides]
    exact (List.nodup_reverse.mpr sound.distinct).map (Hex.neighbor_injective targetHex)

/-- A draft stays sound when a unit of its pool joins on a side that is free. -/
theorem commit [Scalar α] (sound : draft.Sound context target targetHex candidates)
    {position : Nat} {id : UnitId} {unit : Combatant} {approach : Approach α}
    (there : draft.pool[position]? = some id) (free : approach.place ∉ draft.taken)
    (side : approach.hex = targetHex.neighbor approach.place)
    (joins : Search.mayJoin unit draft.depth = true)
    (strikes : context.CanStrike targetHex (id, approach.hex) unit) :
    (draft.commit position id approach).1.Sound context target targetHex candidates := by
  refine ⟨sound.sameTarget, sound.sameHex, ?_, ?_, List.nodup_cons.mpr ⟨free, sound.distinct⟩, ?_,
    ?_⟩
  · rcases List.getElem?_eq_some_iff.mp there with ⟨within, rfl⟩
    have moved : (draft.plan.attackers ++ (draft.pool[position] ::
        draft.pool.eraseIdx position)).Perm candidates :=
      ((List.getElem_cons_eraseIdx_perm within).append_left _).trans sound.everyone
    simpa [Draft.commit, Plan.attackers] using moved
  · simp [Draft.commit, sound.sides, side]
  · intro movement member
    rcases List.mem_append.mp member with earlier | last
    · exact sound.strikes movement earlier
    · rw [List.mem_singleton.mp last]
      exact ⟨unit, strikes⟩
  · intro position' id' hex unit' there' alive slows
    rcases Nat.lt_trichotomy position' draft.depth with earlier | last | beyond
    · apply sound.slow position' id' hex unit' ?_ alive slows
      rw [← there']
      exact (List.getElem?_append_left earlier).symm
    · subst last
      have joined : (id, approach.hex) = (id', hex) := by
        simpa [Draft.commit, Draft.depth] using there'
      cases joined
      have same := strikes.alive.symm.trans alive
      cases same
      simp only [Search.mayJoin, slows, Bool.not_true, Bool.or_false, Bool.and_eq_true,
        beq_iff_eq] at joins
      exact joins.2
    · have short : (draft.commit position id approach).1.plan.movements.length ≤ position' := by
        simpa [Draft.commit] using (show draft.plan.movements.length + 1 ≤ position' from beyond)
      rw [List.getElem?_eq_none short] at there'
      cases there'

end Sound

/-- An attacker that joined on a side that was free and leaves again leaves the draft as it was,
whatever was found out about its plan in the meantime. -/
theorem release_commit [Scalar α] {position : Nat} {id : UnitId} {approach : Approach α}
    (there : draft.pool[position]? = some id) (free : approach.place ∉ draft.taken)
    (plan : Plan α) :
    Draft.release { (draft.commit position id approach).1 with plan }
      (draft.commit position id approach).2 = draft := by
  rcases List.getElem?_eq_some_iff.mp there with ⟨within, rfl⟩
  have others : (approach.place :: draft.taken).filter (fun place => place != approach.place) =
      draft.taken := by
    rw [List.filter_cons_of_neg (by simp)]
    exact List.filter_eq_self.mpr fun place member => by
      simpa using ne_of_mem_of_not_mem member free
  unfold release commit
  simp only [List.insertIdx_eraseIdx_getElem within, others]

end Draft

/-! ## Approaches -/

namespace Approach

variable [Scalar α]

theorem mem_of_foldl_prefer {candidates : List (Approach α × α)}
    {leader : Option (Approach α × α)} {chosen : Approach α × α}
    (result : candidates.foldl prefer leader = some chosen) :
    leader = some chosen ∨ chosen ∈ candidates := by
  induction candidates generalizing leader with
  | nil => exact Or.inl result
  | cons candidate others ih =>
      have either : prefer leader candidate = leader ∨
          prefer leader candidate = some candidate := by
        unfold prefer
        split
        · exact Or.inr rfl
        · split
          · exact Or.inr rfl
          · exact Or.inl rfl
      rw [List.foldl_cons] at result
      rcases ih result with kept | member
      · rcases either with same | taken
        · exact Or.inl (same.symm.trans kept)
        · rw [taken] at kept
          cases kept
          exact Or.inr (List.mem_cons_self ..)
      · exact Or.inr (List.mem_cons_of_mem _ member)

theorem of_best?_eq_some {context : Context α ρ} {id : UnitId} {unit : Combatant} {targetHex : Hex}
    {taken : List Direction} {approach : Approach α}
    (best : best? context id unit targetHex taken = some approach) :
    approach.place ∉ taken ∧ approach.hex = targetHex.neighbor approach.place ∧
      isOpen context id unit approach.hex = true := by
  rcases Option.map_eq_some_iff.mp best with ⟨chosen, result, rfl⟩
  rcases mem_of_foldl_prefer result with impossible | member
  · cases impossible
  · rcases List.mem_filterMap.mp member with ⟨place, -, found⟩
    simp only at found
    split at found
    · rename_i suitable
      cases found
      simp only [Bool.and_eq_true, Bool.not_eq_true', List.contains_eq_mem,
        decide_eq_false_iff_not] at suitable
      exact ⟨suitable.1, rfl, suitable.2⟩
    · cases found

end Approach

namespace Context.Continues

variable {first now : Context α ρ} {id : UnitId} {unit : Combatant} {standing targetHex : Hex}

/-- A unit strikes from a hex that is open to it, also when planning has gone on for a while. -/
theorem canStrike (continues : first.Continues now) {hex : Hex}
    (alive : first.field.roster.get? id = some unit)
    (there : now.field.roster.get? id = some { unit with hex := standing })
    (active : unit.incapacitated = false) (initiates : unit.canInitiate = true)
    (adjacent : hex ∈ targetHex.neighbors)
    (isOpen : Approach.isOpen now id { unit with hex := standing } hex = true) :
    first.CanStrike targetHex (id, hex) unit := by
  simp only [Approach.isOpen, Bool.and_eq_true, Bool.or_eq_true, beq_iff_eq] at isOpen
  rcases isOpen with ⟨⟨inBounds, vacant⟩, reached⟩
  have board := continues.strays.frame
  refine ⟨alive, active, initiates, adjacent, ?_, ?_, ?_⟩
  · rw [board] at inBounds
    exact inBounds
  · rw [continues.ownMoves] at reached
    rcases reached with rfl | reached
    · rcases continues.strays.units alive with ⟨standing', there', reason⟩
      have same := congrArg Combatant.hex (Option.some.inj (there.symm.trans there'))
      simp only at same
      rw [same]
      exact reason.imp_left Eq.symm
    · exact Or.inr reached
  · intro consistent other unit' alive' here
    simp only at here ⊢
    rw [continues.undisturbed consistent, ← here, consistent.idAt? alive'] at vacant
    simpa using vacant

/-- A unit that may join a sound draft on its best approach can strike from there. -/
theorem sound_commit [Scalar α] (continues : first.Continues now) {target : UnitId}
    {candidates : List UnitId} {draft : Draft α}
    (sound : draft.Sound first target targetHex candidates) {position : Nat}
    (inPool : draft.pool[position]? = some id) (alive : first.field.roster.get? id = some unit)
    (there : now.field.roster.get? id = some { unit with hex := standing })
    (joins : Search.mayJoin unit draft.depth = true) {approach : Approach α}
    (best : Approach.best? now id { unit with hex := standing } draft.plan.targetHex draft.taken =
      some approach) :
    (draft.commit position id approach).1.Sound first target targetHex candidates := by
  rcases Approach.of_best?_eq_some best with ⟨free, side, isOpen⟩
  rw [sound.sameHex] at side
  have adjacent : approach.hex ∈ targetHex.neighbors :=
    (Hex.mem_neighbors_iff _ _).mpr ⟨approach.place, side.symm⟩
  have fit := joins
  simp only [Search.mayJoin, Bool.and_eq_true, Bool.not_eq_true'] at fit
  exact sound.commit inPool free side joins
    (continues.canStrike alive there fit.1.1 fit.1.2 adjacent isOpen)

end Context.Continues

end Hexfield
