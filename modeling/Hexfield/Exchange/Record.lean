namespace Hexfield

/-!
The record of one swing, and how a follower settles a record that differs from its own outcome.

Whoever leads an exchange publishes the record of every swing.  A follower compares it with the
outcome of its own roll; where they differ the published record wins, after it has been made
consistent with the hitpoints that the follower sees.
-/

/-- The outcome of one swing. -/
structure SwingRecord where
  hit : Bool
  damage : Nat
  /-- The chance to hit against which the swing was rolled, in percent. -/
  chance : Nat
  dies : Bool
deriving DecidableEq

/-- A field in which the own outcome differs from the given one. -/
inductive Discrepancy where
  | hit (own given : Bool)
  | damage (own given : Nat)
  | chance (own given : Nat)
  | dies (own given : Bool)
deriving DecidableEq

namespace SwingRecord

/-- The fields in which two records differ, in their declared order. -/
def discrepancies (own given : SwingRecord) : List Discrepancy :=
  (if own.hit = given.hit then [] else [.hit own.hit given.hit]) ++
  (if own.damage = given.damage then [] else [.damage own.damage given.damage]) ++
  (if own.chance = given.chance then [] else [.chance own.chance given.chance]) ++
  (if own.dies = given.dies then [] else [.dies own.dies given.dies])

/-- A given record made consistent with the target's hitpoints.  A miss does nothing, a death takes
all hitpoints at least, and a survivor keeps one at least. -/
def settled (given : SwingRecord) (targetHitpoints : Nat) : SwingRecord :=
  if given.hit then
    if given.dies then { given with damage := max given.damage targetHitpoints }
    else if targetHitpoints ≤ given.damage then { given with damage := targetHitpoints - 1 }
    else given
  else
    { given with damage := 0, dies := false }

/-- The record that counts: the own one, unless a given one differs from it. -/
def reconciled (own : SwingRecord) (given : Option SwingRecord) (targetHitpoints : Nat) :
    SwingRecord :=
  match given with
  | some record => if own = record then own else record.settled targetHitpoints
  | none => own

/-- A given record that differs from the own one. -/
def disputed (own : SwingRecord) (given : Option SwingRecord) : Bool :=
  given.any (fun record => own ≠ record)

theorem settled_settled (given : SwingRecord) (targetHitpoints : Nat) :
    (given.settled targetHitpoints).settled targetHitpoints = given.settled targetHitpoints := by
  rcases given with ⟨hit, damage, chance, dies⟩
  cases hit with
  | false => rfl
  | true =>
      cases dies with
      | true => simp [settled]
      | false =>
          by_cases tooMuch : targetHitpoints ≤ damage
          · simp only [settled, if_true, Bool.false_eq_true, if_false, tooMuch]
            split
            · rfl
            · rfl
          · simp [settled, tooMuch]

/-- The record that counts is consistent, if the own one is. -/
theorem settled_reconciled {own : SwingRecord} {targetHitpoints : Nat}
    (consistent : own.settled targetHitpoints = own) (given : Option SwingRecord) :
    (own.reconciled given targetHitpoints).settled targetHitpoints =
      own.reconciled given targetHitpoints := by
  cases given with
  | none => exact consistent
  | some record =>
      simp only [reconciled]
      split
      · exact consistent
      · exact settled_settled record targetHitpoints

/-- A consistent record counts for every follower, whatever its own outcome is. -/
theorem reconciled_of_settled {record : SwingRecord} {targetHitpoints : Nat}
    (consistent : record.settled targetHitpoints = record) (own : SwingRecord) :
    own.reconciled (some record) targetHitpoints = record := by
  simp only [reconciled]
  split
  · assumption
  · exact consistent

theorem disputed_self (own : SwingRecord) : own.disputed (some own) = false := by
  simp [disputed]

end SwingRecord

end Hexfield
