import Hexfield.Battlefield
import Hexfield.Loading
import Hexfield.Scenario.Layout

namespace Hexfield

/-!
Scenarios ready to be fought.

A scenario is built from its written form in a fixed order: the rules are checked, the terrain is
laid, the units are placed one by one, the templates are made, the duel is looked up.  The first
step that fails decides the answer.
-/

structure Scenario where
  name : String
  field : Battlefield
  catalog : Catalog
  /-- The numbers of the listed units, in the order of the list. -/
  unitIds : List UnitId
  /-- Attacker, defender and the attacker's weapon. -/
  duel : Option (UnitId × UnitId × Nat)
  /-- The side that the attack search plays. -/
  aiSide : Option Side

namespace Layout

def WeaponEntry.toWeapon (entry : WeaponEntry) : Weapon :=
  { name := entry.name, damage := entry.damage, strikes := entry.strikes, range := entry.range
    damageType := entry.damageType, defenseWeight := entry.defenseWeight
    specials := entry.specials.map Special.ofName }

/-- The listed unit.  Its side has to fit into a byte, and its hitpoints are cut to the maximum. -/
def UnitEntry.toCombatant (entry : UnitEntry) : Except Fault Combatant :=
  if 255 < entry.side then .error (.sideOutOfRange entry.side)
  else
    let unit := Combatant.ofType entry.unitType ⟨entry.side⟩ ⟨entry.q, entry.r⟩ entry.maxHitpoints
    .ok
      { unit with
        level := entry.level
        hitpoints := min (entry.hitpoints.getD entry.maxHitpoints) entry.maxHitpoints
        experience := entry.experience
        cost := entry.cost.getD unit.cost
        movement := entry.movement.getD unit.movement
        movementType := entry.movementType
        alignment := entry.alignment
        resistances := entry.resistances
        weapons := entry.weapons.map WeaponEntry.toWeapon
        abilities := entry.abilities
        living := entry.living
        canRecruit := entry.leader }

/-- The board with one more patch of terrain. -/
def layPatch (board : Board) (patch : PatchEntry) : Except Fault Board :=
  let hex : Hex := ⟨patch.q, patch.r⟩
  if board.inBounds hex then .ok (board.setTerrain hex patch.terrain) else .error (.offMap hex)

def musterTeams (sides : List SideEntry) : Teams :=
  if sides.isEmpty then Teams.twoSides
  else ⟨sides.map fun entry => ⟨⟨entry.side⟩, entry.alliance, entry.gold⟩⟩

def placeUnit (placed : List UnitId × Battlefield) (entry : UnitEntry) :
    Except Fault (List UnitId × Battlefield) := do
  let unit ← entry.toCombatant
  let (id, field) ← placed.2.addUnit unit
  pure (placed.1 ++ [id], field)

def addTemplate (catalog : Catalog) (entry : UnitEntry) : Except Fault Catalog :=
  (entry.toCombatant).map catalog.add

/-- The unit at an index of the list. -/
def pickDuelist (ids : List UnitId) (index : Nat) : Except Fault UnitId :=
  match ids[index]? with
  | some id => .ok id
  | none => .error (.noSuchDuelist index ids.length)

/-- The duel with its fighters looked up, the attacker first. -/
def pickDuel (ids : List UnitId) (duel : DuelEntry) : Except Fault (UnitId × UnitId × Nat) := do
  let attacker ← pickDuelist ids duel.attacker
  let defender ← pickDuelist ids duel.defender
  pure (attacker, defender, duel.weapon)

def Document.build (document : Document) : Except Fault Scenario := do
  if let some flaw := document.rules.flaw? then throw (.badRules flaw)
  let board ← document.terrain.foldlM layPatch (Board.flat document.width document.height)
  let bare : Battlefield :=
    { board, roster := .empty, teams := musterTeams document.sides, time := document.time
      rules := document.rules }
  let (unitIds, field) ← document.units.foldlM placeUnit ([], bare)
  let catalog ← document.templates.foldlM addTemplate {}
  let duel ← document.duel.mapM (pickDuel unitIds)
  pure
    { name := document.name, field, catalog, unitIds, duel
      aiSide := document.aiSide.map Side.mk }

end Layout

def Scenario.load (content : Option String) : Except (LoadError Fault) Scenario := do
  let document ← LoadError.decodeFile Layout.decodeDocument content
  match document.build with
  | .ok scenario => .ok scenario
  | .error fault => .error (.refused fault)

end Hexfield
