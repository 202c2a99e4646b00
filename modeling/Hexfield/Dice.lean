namespace Hexfield

/-!
Random rolls in `0 .. 99`.

A source of rolls is a state together with a function that yields the next roll and the state
after it.  The bound is part of the type of a roll, so no source can break it.
-/

/-- A percentile roll. -/
abbrev Roll := Fin 100

/-- A state from which rolls can be drawn one after another. -/
class RollSource (ρ : Type) where
  roll : ρ → Roll × ρ

/-- A fixed list of rolls.  When the list is used up its last entry repeats; an empty list gives
zero throughout. -/
structure ScriptedDice where
  faces : Array Nat
  next : Nat

namespace ScriptedDice

/-- The list of rolls, none of them drawn yet. -/
def ofArray (faces : Array Nat) : ScriptedDice :=
  { faces, next := 0 }

/-- The roll at a position: an entry above the highest face counts as the highest face. -/
def face (dice : ScriptedDice) (position : Nat) : Roll :=
  let value := (dice.faces[position]? <|> dice.faces.back?).getD 0
  ⟨min value 99, by omega⟩

instance : RollSource ScriptedDice where
  roll := fun dice => (dice.face dice.next, { dice with next := dice.next + 1 })

end ScriptedDice

/-- A list of rolls is drawn from its head, and yields zero once it is used up. -/
instance : RollSource (List Roll) where
  roll
    | [] => (0, [])
    | roll :: rolls => (roll, rolls)

/-- The first `count` rolls of a source, and the source after them. -/
def RollSource.take [RollSource ρ] : Nat → ρ → List Roll × ρ
  | 0, source => ([], source)
  | count + 1, source =>
      let (roll, source) := RollSource.roll source
      let (rolls, source) := RollSource.take count source
      (roll :: rolls, source)

/-- Two sources yield the same rolls, however many are drawn. -/
def RollSource.SameRolls {ρ ρ' : Type} [RollSource ρ] [RollSource ρ'] (first : ρ) (second : ρ') :
    Prop :=
  ∀ count, (RollSource.take count first).1 = (RollSource.take count second).1

namespace RollSource.SameRolls

variable {ρ ρ' : Type} [RollSource ρ] [RollSource ρ'] {first : ρ} {second : ρ'}

theorem refl (source : ρ) : SameRolls source source :=
  fun _ => rfl

theorem roll (same : SameRolls first second) :
    (RollSource.roll first).1 = (RollSource.roll second).1 :=
  (List.cons.inj (same 1)).1

theorem next (same : SameRolls first second) :
    SameRolls (RollSource.roll first).2 (RollSource.roll second).2 :=
  fun count => (List.cons.inj (same (count + 1))).2

end RollSource.SameRolls

theorem RollSource.take_list (rolls : List Roll) :
    (RollSource.take rolls.length rolls).1 = rolls := by
  induction rolls with
  | nil => rfl
  | cons roll rolls ih => exact congrArg (roll :: ·) ih

namespace ScriptedDice

/-- Dice that yield these rolls. -/
def ofRolls (rolls : List Roll) : ScriptedDice :=
  ofArray (rolls.map Fin.val).toArray

theorem face_of_getElem? {rolls : List Roll} {position : Nat} {roll : Roll}
    (found : rolls[position]? = some roll) :
    (ofRolls rolls).face position = roll := by
  have limit : min roll.val 99 = roll.val := by omega
  apply Fin.ext
  simp [face, ofRolls, ofArray, found, limit]

theorem take_from (rolls : List Roll) (count : Nat) :
    ∀ position, position + count = rolls.length →
      (RollSource.take count { ofRolls rolls with next := position }).1 =
        rolls.drop position := by
  induction count with
  | zero =>
      intro position used
      exact (List.drop_eq_nil_of_le (Nat.le_of_eq used.symm)).symm
  | succ count ih =>
      intro position left
      have within : position < rolls.length := by omega
      have found : rolls[position]? = some rolls[position] := List.getElem?_eq_getElem within
      have roll : (ofRolls rolls).face position = rolls[position] := face_of_getElem? found
      rw [List.drop_eq_getElem_cons within, ← ih (position + 1) (by omega), ← roll]
      rfl

theorem take_ofRolls (rolls : List Roll) :
    (RollSource.take rolls.length (ofRolls rolls)).1 = rolls :=
  take_from rolls rolls.length 0 (Nat.zero_add _)

end ScriptedDice

theorem RollSource.length_take [RollSource ρ] (count : Nat) (source : ρ) :
    (RollSource.take count source).1.length = count := by
  induction count generalizing source with
  | zero => rfl
  | succ count ih => simp [RollSource.take, ih]

end Hexfield
