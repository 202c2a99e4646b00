import Hexfield.Exchange.Event
import Hexfield.Exchange.Record

namespace Hexfield

/-!
The state of an exchange between its swings, and whose turn it is.

The two sides take turns.  A side whose strikes of the round are used up lets its turn pass, and so
does the attacker at the very start when the defender strikes first.  When both have used up their
strikes the next round begins, as long as there is one.
-/

structure AppliedSwing where
  striker : Role
  record : SwingRecord
deriving DecidableEq

/-- An exchange between two swings. -/
structure Exchange where
  attacker : UnitId
  defender : UnitId
  weapon : Nat
  /-- Where attacker and defender stood at the start. -/
  hexes : List Hex
  /-- Strikes of the attacker in each round. -/
  attackerBudget : Nat
  /-- Strikes of the defender in each round. -/
  defenderBudget : Nat
  /-- Strikes of the attacker that are left in this round. -/
  attackerSwings : Nat
  /-- Strikes of the defender that are left in this round. -/
  defenderSwings : Nat
  /-- The rounds that are left, the current one included. -/
  rounds : Nat
  /-- The attacker's next turn passes because the defender strikes first. -/
  preempted : Bool
  turn : Role
  swings : Array AppliedSwing
  /-- Swings whose given record differed from the own outcome. -/
  desyncs : Nat
  /-- The unit that rose through contagion. -/
  spawned : Option UnitId
  ending : Option Ending

namespace Exchange

def isFinished (exchange : Exchange) : Bool :=
  exchange.ending.isSome

def unitOf (exchange : Exchange) : Role → UnitId
  | .attacker => exchange.attacker
  | .defender => exchange.defender

def opponentOf (exchange : Exchange) : Role → UnitId
  | .attacker => exchange.defender
  | .defender => exchange.attacker

theorem unitOf_other (exchange : Exchange) (role : Role) :
    exchange.unitOf role.other = exchange.opponentOf role := by
  cases role <;> rfl

theorem unitOf_ne_opponentOf {exchange : Exchange}
    (distinct : exchange.attacker ≠ exchange.defender) (role : Role) :
    exchange.unitOf role ≠ exchange.opponentOf role := by
  cases role with
  | attacker => exact distinct
  | defender => exact Ne.symm distinct

/-- Who plays a part is a matter of who attacks and who defends. -/
theorem unitOf_congr {first second : Exchange} (attacker : second.attacker = first.attacker)
    (defender : second.defender = first.defender) (role : Role) :
    second.unitOf role = first.unitOf role := by
  cases role with
  | attacker => exact attacker
  | defender => exact defender

theorem opponentOf_congr {first second : Exchange} (attacker : second.attacker = first.attacker)
    (defender : second.defender = first.defender) (role : Role) :
    second.opponentOf role = first.opponentOf role := by
  rw [← unitOf_other, unitOf_congr attacker defender, unitOf_other]

/-- A bound on the swings that are left. -/
def swingsLeft (exchange : Exchange) : Nat :=
  exchange.attackerSwings + exchange.defenderSwings +
    (exchange.rounds - 1) * (exchange.attackerBudget + exchange.defenderBudget)

/-- What becomes of a turn. -/
inductive Turn where
  /-- The side swings. -/
  | swing (role : Role) (next : Exchange)
  /-- The turn passes. -/
  | pass (next : Exchange)
  /-- All rounds are used up. -/
  | finished

/-- The attacker's turn, in a round that is not used up or has just begun. -/
def attackerTurn (exchange : Exchange) : Turn :=
  let next := { exchange with turn := .defender, preempted := false }
  if 0 < exchange.attackerSwings ∧ ¬ exchange.preempted then .swing .attacker next
  else .pass next

def takeTurn (exchange : Exchange) : Turn :=
  match exchange.turn with
  | .defender =>
      let next := { exchange with turn := .attacker }
      if 0 < exchange.defenderSwings then .swing .defender next else .pass next
  | .attacker =>
      if exchange.attackerSwings = 0 ∧ exchange.defenderSwings = 0 then
        if 1 < exchange.rounds then
          attackerTurn
            { exchange with
              rounds := exchange.rounds - 1
              attackerSwings := exchange.attackerBudget
              defenderSwings := exchange.defenderBudget }
        else
          .finished
      else
        attackerTurn exchange

/-- How many turns can pass in a row before the round changes: at most one pre-emption, and then
one turn of a side without strikes. -/
private def patience (exchange : Exchange) : Nat :=
  exchange.preempted.toNat * 2 +
    match exchange.turn with
    | .attacker => if 0 < exchange.defenderSwings then 1 else 0
    | .defender => if 0 < exchange.defenderSwings then 0 else 1

private theorem attackerTurn_pass {exchange next : Exchange}
    (passed : exchange.attackerTurn = .pass next) :
    next = { exchange with turn := .defender, preempted := false } ∧
      (exchange.attackerSwings = 0 ∨ exchange.preempted = true) := by
  simp only [attackerTurn] at passed
  split at passed
  · cases passed
  · rename_i noSwing
    cases passed
    refine ⟨rfl, ?_⟩
    cases hpre : exchange.preempted
    · left
      simpa [hpre] using noSwing
    · right
      rfl

/-- A turn that passes uses up a round or brings the next swing nearer. -/
private theorem pass_decreases {exchange next : Exchange}
    (passed : exchange.takeTurn = .pass next) :
    next.rounds < exchange.rounds ∨
      next.rounds = exchange.rounds ∧ next.patience < exchange.patience := by
  simp only [takeTurn] at passed
  split at passed
  · rename_i turn
    split at passed
    · cases passed
    · rename_i noSwing
      cases passed
      right
      simp [patience, turn, noSwing]
  · rename_i turn
    split at passed
    · split at passed
      · rename_i moreRounds
        obtain ⟨same, -⟩ := attackerTurn_pass passed
        left
        subst same
        show exchange.rounds - 1 < exchange.rounds
        omega
      · cases passed
    · rename_i notSpent
      obtain ⟨same, reason⟩ := attackerTurn_pass passed
      right
      subst same
      refine ⟨rfl, ?_⟩
      simp only [patience, turn]
      rcases reason with spent | pre
      · have left : 0 < exchange.defenderSwings := by omega
        cases exchange.preempted <;> simp [left]
      · simp only [pre, Bool.toNat_true, Bool.toNat_false]
        split <;> omega

/-- The side that swings next, after the turns that pass; `none` when the exchange has ended or all
its rounds are used up. -/
def nextStriker (exchange : Exchange) : Option Role × Exchange :=
  if exchange.isFinished then (none, exchange)
  else
    match _passed : exchange.takeTurn with
    | .finished => (none, exchange)
    | .swing role next => (some role, next)
    | .pass next => next.nextStriker
termination_by (exchange.rounds, exchange.patience)
decreasing_by
  rcases pass_decreases _passed with fewer | ⟨same, nearer⟩
  · exact Prod.Lex.left _ _ fewer
  · rw [same]
    exact Prod.Lex.right _ nearer

private theorem swing_rounds {exchange next : Exchange} {role : Role}
    (swung : exchange.takeTurn = .swing role next) :
    next.rounds < exchange.rounds ∨
      next.rounds = exchange.rounds ∧ next.defenderSwings = exchange.defenderSwings ∧
        (role = .defender → 0 < next.defenderSwings) := by
  simp only [takeTurn] at swung
  split at swung
  · split at swung
    · rename_i available
      cases swung
      exact Or.inr ⟨rfl, rfl, fun _ => available⟩
    · cases swung
  · split at swung
    · split at swung
      · rename_i moreRounds
        left
        simp only [attackerTurn] at swung
        split at swung
        · cases swung
          show exchange.rounds - 1 < exchange.rounds
          omega
        · cases swung
      · cases swung
    · simp only [attackerTurn] at swung
      split at swung
      · cases swung
        exact Or.inr ⟨rfl, rfl, fun impossible => by cases impossible⟩
      · cases swung

private theorem pass_defenderSwings {exchange next : Exchange}
    (passed : exchange.takeTurn = .pass next) :
    next.rounds < exchange.rounds ∨
      next.rounds = exchange.rounds ∧ next.defenderSwings = exchange.defenderSwings := by
  simp only [takeTurn] at passed
  split at passed
  · split at passed
    · cases passed
    · cases passed
      exact Or.inr ⟨rfl, rfl⟩
  · split at passed
    · split at passed
      · obtain ⟨same, -⟩ := attackerTurn_pass passed
        left
        subst same
        show exchange.rounds - 1 < exchange.rounds
        omega
      · cases passed
    · obtain ⟨same, -⟩ := attackerTurn_pass passed
      subst same
      exact Or.inr ⟨rfl, rfl⟩

/-- A defender that is about to swing has a strike left in a round that is not later than
before. -/
theorem nextStriker_defender {exchange next : Exchange}
    (striker : exchange.nextStriker = (some .defender, next)) :
    next.rounds < exchange.rounds ∨
      next.rounds = exchange.rounds ∧ next.defenderSwings = exchange.defenderSwings ∧
        0 < next.defenderSwings := by
  fun_induction nextStriker exchange with
  | case1 => simp at striker
  | case2 => simp at striker
  | case3 exchange _ role _ swung =>
      simp only [Prod.mk.injEq, Option.some.injEq] at striker
      obtain ⟨rfl, rfl⟩ := striker
      rcases swing_rounds swung with fewer | ⟨same, swings, positive⟩
      · exact Or.inl fewer
      · exact Or.inr ⟨same, swings, positive rfl⟩
  | case4 exchange _ middle passed ih =>
      rcases ih striker with fewer | ⟨same, swings, positive⟩
      · rcases pass_defenderSwings passed with fewer' | ⟨same', -⟩
        · exact Or.inl (by omega)
        · exact Or.inl (by omega)
      · rcases pass_defenderSwings passed with fewer' | ⟨same', swings'⟩
        · exact Or.inl (by omega)
        · exact Or.inr ⟨by omega, by omega, positive⟩

/-- The next striker when the defender turns out to be unable to answer: the strikes it has left are
lost, round by round, until the attacker swings or the exchange is over. -/
def nextWithoutCounter (exchange : Exchange) : Option Role × Exchange :=
  match _striker : exchange.nextStriker with
  | (some .defender, next) => nextWithoutCounter { next with defenderSwings := 0 }
  | (some .attacker, next) => (some .attacker, next)
  | (none, next) => (none, next)
termination_by (exchange.rounds, exchange.defenderSwings)
decreasing_by
  rcases nextStriker_defender _striker with fewer | ⟨same, swings, positive⟩
  · exact Prod.Lex.left _ _ fewer
  · rw [← same]
    exact Prod.Lex.right _ (by omega)

/-- The striker that was found, if it can strike at all; else the next one that can. -/
def armedStriker (exchange : Exchange) (role : Role) (defenderCounters : Bool) :
    Option Role × Exchange :=
  if role = .defender ∧ ¬ defenderCounters then
    nextWithoutCounter { exchange with defenderSwings := 0 }
  else
    (some role, exchange)

def spend (exchange : Exchange) : Role → Exchange
  | .attacker => { exchange with attackerSwings := exchange.attackerSwings - 1 }
  | .defender => { exchange with defenderSwings := exchange.defenderSwings - 1 }

def bothPresent (exchange : Exchange) (field : Battlefield) : Bool :=
  field.roster.contains exchange.attacker && field.roster.contains exchange.defender

end Exchange

end Hexfield
