import Hexfield.Exchange.State
import Hexfield.Schedule

namespace Hexfield

/-!
The turns of an exchange follow its schedule.

The turn automaton decides from counters whose turn it is; a schedule lists all swings in advance.
`Exchange.upcoming` is the part of the schedule that a state of the automaton still has before it.
A turn that passes leaves it as it is and a turn in which a side swings takes its first entry away,
so that the automaton and the schedule agree over any number of rounds.
-/

namespace Exchange

/-- The attacker leads what is left of the round. -/
def attackerLeads (exchange : Exchange) : Bool :=
  match exchange.turn with
  | .attacker => !exchange.preempted
  | .defender => false

/-- The order of the swings that are left, if none of them ends the exchange. -/
def upcoming (exchange : Exchange) : List Bool :=
  Schedule.round exchange.attackerSwings exchange.defenderSwings exchange.attackerLeads ++
    (List.replicate (exchange.rounds - 1)
      (Schedule.round exchange.attackerBudget exchange.defenderBudget true)).flatten

theorem length_upcoming (exchange : Exchange) :
    exchange.upcoming.length = exchange.swingsLeft := by
  simp [upcoming, swingsLeft, Schedule.length_round]

/-- Steps as many as the swings left, and one to end on, are enough for what is upcoming. -/
theorem length_lt_of_upcoming {exchange : Exchange} {due : List Bool}
    (upcoming : exchange.upcoming = due) : due.length < exchange.swingsLeft + 1 := by
  rw [← upcoming, length_upcoming]
  exact Nat.lt_succ_self _

/-- A first strike is pending only before the first swing, and no side has more strikes left in a
round than a round gives it. -/
structure Orderly (exchange : Exchange) : Prop where
  untouched : exchange.preempted = true →
    exchange.turn = .attacker ∧ exchange.attackerSwings = exchange.attackerBudget ∧
      exchange.defenderSwings = exchange.defenderBudget
  within : exchange.defenderSwings ≤ exchange.defenderBudget

/-- Two states of an exchange that differ in nothing but whose turn it is and what is left to
swing. -/
def TurnsTo (before after : Exchange) : Prop :=
  after =
    { before with
      attackerSwings := after.attackerSwings
      defenderSwings := after.defenderSwings
      rounds := after.rounds
      preempted := after.preempted
      turn := after.turn }

theorem TurnsTo.refl (exchange : Exchange) : exchange.TurnsTo exchange :=
  rfl

theorem TurnsTo.trans {first second third : Exchange} (left : first.TurnsTo second)
    (right : second.TurnsTo third) : first.TurnsTo third := by
  rw [TurnsTo] at right ⊢
  rw [left] at right
  exact right

/-- A turn takes an exchange on along its schedule. -/
def Turn.Accords (before : Exchange) : Turn → Prop
  | swing role next =>
      before.TurnsTo next ∧ before.upcoming = role.mark :: (next.spend role).upcoming ∧
        (next.spend role).Orderly ∧ (role = .defender → 0 < before.defenderBudget)
  | pass next => before.TurnsTo next ∧ before.upcoming = next.upcoming ∧ next.Orderly
  | finished => before.upcoming = []

theorem Turn.Accords.of_turnsTo {before middle : Exchange} {turn : Turn}
    (turned : before.TurnsTo middle) (same : before.upcoming = middle.upcoming)
    (accords : turn.Accords middle) : turn.Accords before := by
  have budget : middle.defenderBudget = before.defenderBudget := by rw [turned]
  cases turn with
  | swing role next =>
      rcases accords with ⟨turned', first, orderly, counters⟩
      exact ⟨turned.trans turned', same.trans first, orderly, budget ▸ counters⟩
  | pass next =>
      rcases accords with ⟨turned', kept, orderly⟩
      exact ⟨turned.trans turned', same.trans kept, orderly⟩
  | finished => exact same.trans accords

theorem attackerTurn_accords {exchange : Exchange} (orderly : exchange.Orderly)
    (turn : exchange.turn = .attacker) : exchange.attackerTurn.Accords exchange := by
  simp only [attackerTurn]
  split
  · rename_i swings
    rcases swings with ⟨available, ready⟩
    rcases Nat.exists_eq_succ_of_ne_zero (Nat.ne_of_gt available) with ⟨strikes, count⟩
    refine ⟨rfl, ?_, ⟨?_, orderly.within⟩, ?_⟩
    · simp [upcoming, attackerLeads, turn, ready, spend, count, Schedule.round, Role.mark,
        Schedule.alternate_succ]
    · intro pending
      cases pending
    · intro other
      cases other
  · rename_i noSwing
    refine ⟨rfl, ?_, ⟨?_, orderly.within⟩⟩
    · cases pending : exchange.preempted with
      | false =>
          have spent : exchange.attackerSwings = 0 := by
            simpa [pending] using noSwing
          simp [upcoming, attackerLeads, turn, pending, spent, Schedule.round,
            Schedule.alternate_zero true]
      | true => simp [upcoming, attackerLeads, turn, pending]
    · intro pending
      cases pending

/-- The refill of a new round is the next round of the schedule. -/
theorem upcoming_refill {exchange : Exchange} (orderly : exchange.Orderly)
    (turn : exchange.turn = .attacker) (attackerSpent : exchange.attackerSwings = 0)
    (defenderSpent : exchange.defenderSwings = 0) (more : 1 < exchange.rounds) :
    exchange.upcoming =
      upcoming
        { exchange with
          rounds := exchange.rounds - 1
          attackerSwings := exchange.attackerBudget
          defenderSwings := exchange.defenderBudget } := by
  rcases Nat.exists_eq_add_of_lt more with ⟨rounds, count⟩
  have rest : exchange.rounds - 1 = rounds + 1 := by omega
  cases pending : exchange.preempted with
  | false =>
      simp [upcoming, attackerLeads, turn, attackerSpent, defenderSpent, rest, pending,
        Schedule.round, Schedule.alternate, List.replicate_succ]
  | true =>
      rcases orderly.untouched pending with ⟨-, attackerFull, defenderFull⟩
      have attackerNone : exchange.attackerBudget = 0 := by omega
      have defenderNone : exchange.defenderBudget = 0 := by omega
      simp [upcoming, attackerLeads, turn, attackerSpent, defenderSpent, rest, pending,
        attackerNone, defenderNone, Schedule.round, Schedule.alternate]

theorem takeTurn_accords {exchange : Exchange} (orderly : exchange.Orderly) :
    exchange.takeTurn.Accords exchange := by
  simp only [takeTurn]
  split
  · rename_i turn
    have ready : exchange.preempted = false := by
      by_cases pending : exchange.preempted = true
      · have early := (orderly.untouched pending).1
        rw [turn] at early
        cases early
      · exact Bool.eq_false_iff.mpr pending
    split
    · rename_i available
      rcases Nat.exists_eq_succ_of_ne_zero (Nat.ne_of_gt available) with ⟨strikes, count⟩
      have within := orderly.within
      refine ⟨rfl, ?_, ⟨?_, ?_⟩, ?_⟩
      · simp [upcoming, attackerLeads, turn, ready, spend, count, Schedule.round, Role.mark,
          Schedule.alternate_succ]
      · intro pending
        simp only [spend, ready, Bool.false_eq_true] at pending
      · simp only [spend]
        omega
      · omega
    · rename_i none
      have spent : exchange.defenderSwings = 0 := Nat.eq_zero_of_not_pos none
      refine ⟨rfl, ?_, ⟨?_, orderly.within⟩⟩
      · simp [upcoming, attackerLeads, turn, ready, spent, Schedule.round,
          Schedule.alternate_zero false]
      · intro pending
        rw [ready] at pending
        cases pending
  · rename_i turn
    split
    · rename_i spent
      split
      · rename_i more
        apply Turn.Accords.of_turnsTo _ (upcoming_refill orderly turn spent.1 spent.2 more)
        · exact attackerTurn_accords ⟨fun _ => ⟨turn, rfl, rfl⟩, Nat.le_refl _⟩ turn
        · rfl
      · rename_i last
        have rest : exchange.rounds - 1 = 0 := by omega
        simp [Turn.Accords, upcoming, spent, rest, Schedule.round, Schedule.alternate]
    · exact attackerTurn_accords orderly turn

/-- The next striker is the one that the schedule names, and no one is left to strike exactly when
the schedule is used up. -/
theorem nextStriker_accords {exchange : Exchange} (going : exchange.ending = none)
    (orderly : exchange.Orderly) :
    exchange.TurnsTo exchange.nextStriker.2 ∧
      match exchange.nextStriker.1 with
      | none => exchange.upcoming = []
      | some role =>
          exchange.upcoming = role.mark :: (exchange.nextStriker.2.spend role).upcoming ∧
            (exchange.nextStriker.2.spend role).Orderly ∧
            (role = .defender → 0 < exchange.defenderBudget) := by
  fun_induction nextStriker exchange with
  | case1 exchange finished =>
      simp [isFinished, going] at finished
  | case2 exchange unfinished finished =>
      have accords := takeTurn_accords orderly
      rw [finished] at accords
      exact ⟨.refl _, accords⟩
  | case3 exchange unfinished role next swung =>
      have accords := takeTurn_accords orderly
      rw [swung] at accords
      exact accords
  | case4 exchange unfinished next passed ih =>
      have accords := takeTurn_accords orderly
      rw [passed] at accords
      rcases accords with ⟨turned, same, nextOrderly⟩
      have nextGoing : next.ending = none := by rw [turned]; exact going
      have budget : next.defenderBudget = exchange.defenderBudget := by rw [turned]
      rcases ih nextGoing nextOrderly with ⟨turned', rest⟩
      refine ⟨turned.trans turned', ?_⟩
      rw [same, ← budget]
      exact rest

theorem defenderBudget_pos {exchange : Exchange} (going : exchange.ending = none)
    (orderly : exchange.Orderly) {rest : List Bool}
    (upcoming : exchange.upcoming = Role.defender.mark :: rest) : 0 < exchange.defenderBudget := by
  have accords := nextStriker_accords going orderly
  rcases striker : exchange.nextStriker with ⟨next, turned⟩
  rw [striker] at accords
  simp only at accords
  cases next with
  | none =>
      rw [upcoming] at accords
      cases accords.2
  | some role =>
      rcases accords with ⟨-, first, -, budgeted⟩
      rw [upcoming] at first
      exact budgeted (Role.mark_injective (List.cons.inj first).1.symm)

end Exchange
end Hexfield
