import Std.Data.ExtTreeMap

namespace Hexfield

/-!
Sides, the teams that play them, and who is whose enemy.
-/

/-- A playing side, numbered from one. -/
structure Side where
  number : Nat
deriving DecidableEq

def Side.describe (side : Side) : String :=
  "side " ++ toString side.number

structure Team where
  side : Side
  /-- Sides with the same alliance number are allies. -/
  alliance : Nat
  gold : Int
deriving DecidableEq

/-- The sides that take part in a battle.  Where a side is listed twice, its first entry counts. -/
structure Teams where
  list : List Team
deriving DecidableEq

namespace Teams

/-- Two sides, each an alliance of its own. -/
def twoSides : Teams :=
  ⟨[⟨⟨1⟩, 1, 0⟩, ⟨⟨2⟩, 2, 0⟩]⟩

def find? (teams : Teams) (side : Side) : Option Team :=
  teams.list.find? (fun team => team.side == side)

def isValid (teams : Teams) (side : Side) : Bool :=
  (teams.find? side).isSome

/-- Sides are enemies when their alliances differ.  A side that takes no part is the enemy of every
other side. -/
def isEnemy (teams : Teams) (a b : Side) : Bool :=
  match teams.find? a, teams.find? b with
  | some teamA, some teamB => teamA.alliance != teamB.alliance
  | _, _ => a != b

/-- The treasury of a side; a side that takes no part has none. -/
def gold (teams : Teams) (side : Side) : Int :=
  ((teams.find? side).map Team.gold).getD 0

/-- The teams with the treasury of one side replaced, at the entry that counts. -/
def setGold (teams : Teams) (side : Side) (gold : Int) : Teams :=
  ⟨replaceFirst teams.list⟩
where
  replaceFirst : List Team → List Team
    | [] => []
    | team :: rest =>
        if team.side == side then { team with gold } :: rest else team :: replaceFirst rest

end Teams

end Hexfield
