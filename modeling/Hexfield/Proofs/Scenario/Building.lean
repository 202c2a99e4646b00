import Hexfield.Proofs.Roster.Consistency
import Hexfield.Proofs.Scenario.Verdict
import Hexfield.Scenario

namespace Hexfield

/-!
Which documents describe a scenario, and which scenario they describe.

Terrain is laid patch by patch, units are placed one by one, and what is checked of a unit depends
on those before it: no unit may be placed where another one stands.  So each list is followed from
its start, with an account of what the entries so far have come to.  These accounts together say
what the scenario of a whole document is.
-/

namespace Layout

def UnitEntry.hex (entry : UnitEntry) : Hex :=
  ⟨entry.q, entry.r⟩

def PatchEntry.hex (patch : PatchEntry) : Hex :=
  ⟨patch.q, patch.r⟩

/-- The terrain of a hex after patches have been laid on flat ground: that of the last patch on the
hex. -/
def laidOn (patches : List PatchEntry) (hex : Hex) : Terrain :=
  ((patches.reverse.find? fun patch => patch.hex == hex).map PatchEntry.terrain).getD .flat

namespace Document

/-- A hex is on the map of the document. -/
def Covers (document : Document) (hex : Hex) : Prop :=
  0 ≤ hex.q ∧ 0 ≤ hex.r ∧ hex.q < document.width ∧ hex.r < document.height

instance (document : Document) (hex : Hex) : Decidable (document.Covers hex) :=
  inferInstanceAs (Decidable (_ ∧ _))

/-- What a document has to keep to. -/
structure WellFormed (document : Document) : Prop where
  rules : document.rules.flaw? = none
  patches : ∀ patch ∈ document.terrain, document.Covers patch.hex
  sides : ∀ entry ∈ document.units ++ document.templates, entry.side ≤ 255
  units : ∀ entry ∈ document.units, document.Covers entry.hex
  apart : document.units.Pairwise fun first second => first.hex ≠ second.hex
  duel : ∀ duel, document.duel = some duel →
    duel.attacker < document.units.length ∧ duel.defender < document.units.length

/-! ## Objections -/

def sideObjections (entry : UnitEntry) : List Fault :=
  objection (255 < entry.side) (.sideOutOfRange entry.side)

def patchObjections (document : Document) (patch : PatchEntry) : List Fault :=
  objection (¬ document.Covers patch.hex) (.offMap patch.hex)

/-- The objections to a unit that is to be placed after others. -/
def unitObjections (document : Document) (earlier : List UnitEntry) (entry : UnitEntry) :
    List Fault :=
  sideObjections entry ++
    (objection (¬ document.Covers entry.hex) (.offMap entry.hex) ++
      objection (∃ other ∈ earlier, other.hex = entry.hex) (.hexOccupied entry.hex))

def duelistObjections (document : Document) (index : Nat) : List Fault :=
  objection (¬ index < document.units.length) (.noSuchDuelist index document.units.length)

def duelObjections (document : Document) (duel : DuelEntry) : List Fault :=
  document.duelistObjections duel.attacker ++ document.duelistObjections duel.defender

/-- All objections to a document, in the order of the checks: to its rules, to its patches, to its
units one by one, to its templates and to its duel. -/
def objections (document : Document) : List Fault :=
  (document.rules.flaw?.map Fault.badRules).toList ++
    (document.terrain.flatMap document.patchObjections ++
      (objectionsAlong document.unitObjections [] document.units ++
        (document.templates.flatMap sideObjections ++
          document.duel.toList.flatMap document.duelObjections)))

/-- There is no objection to units exactly if each of them could be placed alone and no two of them
are to stand on one hex, those before them included. -/
theorem unitObjections_eq_nil_iff {document : Document} {earlier entries : List UnitEntry} :
    objectionsAlong document.unitObjections earlier entries = [] ↔
      (∀ entry ∈ entries, entry.side ≤ 255 ∧ document.Covers entry.hex ∧
          ∀ other ∈ earlier, other.hex ≠ entry.hex) ∧
        entries.Pairwise fun first second => first.hex ≠ second.hex := by
  induction entries generalizing earlier with
  | nil => simp [objectionsAlong]
  | cons first rest ih =>
      have here : document.unitObjections earlier first = [] ↔
          first.side ≤ 255 ∧ document.Covers first.hex ∧
            ∀ other ∈ earlier, other.hex ≠ first.hex := by
        simp [unitObjections, sideObjections]
      rw [objectionsAlong, List.append_eq_nil_iff, here, ih, List.forall_mem_cons,
        List.pairwise_cons]
      simp only [List.mem_append, List.mem_singleton]
      constructor
      · rintro ⟨alone, others, apart⟩
        refine ⟨⟨alone, fun entry member => ?_⟩, fun entry member => ?_, apart⟩
        · rcases others entry member with ⟨side, covered, free⟩
          exact ⟨side, covered, fun other older => free other (Or.inl older)⟩
        · exact (others entry member).2.2 first (Or.inr rfl)
      · rintro ⟨⟨alone, others⟩, first_apart, apart⟩
        refine ⟨alone, fun entry member => ?_, apart⟩
        rcases others entry member with ⟨side, covered, free⟩
        refine ⟨side, covered, fun other older => ?_⟩
        rcases older with older | rfl
        · exact free other older
        · exact first_apart entry member

theorem objections_eq_nil_iff {document : Document} :
    document.objections = [] ↔ document.WellFormed := by
  simp only [objections, List.append_eq_nil_iff, List.flatMap_eq_nil_iff, unitObjections_eq_nil_iff,
    Option.toList_eq_nil_iff, Option.map_eq_none_iff, patchObjections, sideObjections,
    duelObjections, duelistObjections, objection_eq_nil_iff, Decidable.not_not, Nat.not_lt,
    Nat.not_le, Option.mem_toList]
  constructor
  · rintro ⟨rules, patches, ⟨units, apart⟩, templates, duel⟩
    refine ⟨rules, patches, fun entry member => ?_, fun entry member => (units entry member).2.1,
      apart, duel⟩
    rcases List.mem_append.mp member with listed | listed
    · exact (units entry listed).1
    · exact templates entry listed
  · rintro ⟨rules, patches, sides, units, apart, duel⟩
    refine ⟨rules, patches, ⟨fun entry member => ?_, apart⟩, fun entry member => ?_, duel⟩
    · exact ⟨sides entry (List.mem_append_left _ member), units entry member, List.forall_mem_nil _⟩
    · exact sides entry (List.mem_append_right _ member)

end Document

/-! ## Accounts -/

/-- What a board has come to after some of the patches. -/
structure Laid (document : Document) (patches : List PatchEntry) (board : Board) : Prop where
  width : board.width = document.width
  height : board.height = document.height
  terrain : ∀ hex, document.Covers hex → board.terrainAt? hex = some (laidOn patches hex)

/-- What a field has come to after some of the units, with their numbers: the units stand on it
under the numbers of their places, and nothing else has changed. -/
structure Placed (bare : Battlefield) (entries : List UnitEntry)
    (placed : List UnitId × Battlefield) : Prop where
  frame : placed.2 = { bare with roster := placed.2.roster }
  ids : placed.1 = (List.range entries.length).map fun i => ⟨low32 i⟩
  size : placed.2.roster.slots.size = entries.length
  units : ∀ i, (entries[i]?).map UnitEntry.toCombatant = (placed.2.roster.get? ⟨i⟩).map Except.ok
  free : ∀ hex, placed.2.roster.idAt? hex = none ↔ ∀ entry ∈ entries, entry.hex ≠ hex
  consistent : entries.length ≤ UInt32.size → placed.2.roster.Consistent

variable {document : Document}

theorem Laid.inBounds_iff {patches : List PatchEntry} {board : Board}
    (laid : Laid document patches board) {hex : Hex} :
    board.inBounds hex = true ↔ document.Covers hex := by
  rw [Board.inBounds_iff, laid.width, laid.height, Document.Covers]

theorem verdict_toCombatant (entry : UnitEntry) :
    Verdict entry.toCombatant (Document.sideObjections entry)
      fun unit => entry.toCombatant = .ok unit :=
  Verdict.guard fun fits => if_neg fits

/-- A listed unit stands on its hex, and has no more hitpoints than its maximum. -/
theorem of_toCombatant {entry : UnitEntry} {unit : Combatant}
    (listed : entry.toCombatant = .ok unit) :
    unit.hex = entry.hex ∧ unit.hitpoints ≤ unit.maxHitpoints := by
  unfold UnitEntry.toCombatant at listed
  split at listed
  · cases listed
  · cases listed
    exact ⟨rfl, Nat.min_le_right _ _⟩

/-- The patch that is laid last counts. -/
theorem laidOn_concat (patches : List PatchEntry) (patch : PatchEntry) (hex : Hex) :
    laidOn (patches ++ [patch]) hex =
      if patch.hex = hex then patch.terrain else laidOn patches hex := by
  unfold laidOn
  rw [List.reverse_concat]
  by_cases same : patch.hex = hex
  · rw [List.find?_cons_of_pos (by simpa using same), if_pos same]
    rfl
  · rw [List.find?_cons_of_neg (by simpa using same), if_neg same]

theorem laid_flat (document : Document) :
    Laid document [] (Board.flat document.width document.height) := by
  refine ⟨rfl, rfl, fun hex covered => ?_⟩
  exact Board.terrainAt?_flat (Board.inBounds_iff.mpr covered)

theorem verdict_layPatch (earlier : List PatchEntry) (patch : PatchEntry) {board : Board}
    (laid : Laid document earlier board) :
    Verdict (layPatch board patch) (document.patchObjections patch)
      (Laid document (earlier ++ [patch])) := by
  change Verdict (if board.inBounds patch.hex then .ok (board.setTerrain patch.hex patch.terrain)
    else .error (.offMap patch.hex)) _ _
  rw [Document.patchObjections, objection_congr (not_congr laid.inBounds_iff.symm),
    ← List.append_nil (objection _ _)]
  refine Verdict.require fun inside => Verdict.pure ⟨?_, ?_, fun hex covered => ?_⟩
  · rw [Board.setTerrain, if_pos inside]
    exact laid.width
  · rw [Board.setTerrain, if_pos inside]
    exact laid.height
  · rw [Board.terrainAt?_setTerrain inside, laidOn_concat, laid.terrain hex covered]
    split <;> rfl

theorem verdict_layPatches (document : Document) :
    Verdict (document.terrain.foldlM layPatch (Board.flat document.width document.height))
      (document.terrain.flatMap document.patchObjections) (Laid document document.terrain) := by
  rw [← objectionsAlong_const _ []]
  exact Verdict.foldlM (fun earlier patch _ => verdict_layPatch earlier patch) document.terrain []
    (laid_flat document)

theorem placed_nil (bare : Battlefield) (empty : bare.roster = .empty) :
    Placed bare [] ([], bare) := by
  refine ⟨rfl, rfl, ?_, fun i => ?_, fun hex => ?_, fun _ => ?_⟩
  · rw [empty]
    rfl
  · rw [empty]
    rfl
  · rw [empty]
    exact iff_of_true (by simp [Roster.empty, Roster.idAt?]) (List.forall_mem_nil _)
  · rw [empty]
    exact Roster.consistent_empty

/-- One more unit is placed under the number of its place in the list. -/
theorem Placed.concat {bare : Battlefield} {earlier : List UnitEntry}
    {placed : List UnitId × Battlefield} (account : Placed bare earlier placed)
    {entry : UnitEntry} {unit : Combatant} (listed : entry.toCombatant = .ok unit) {id : UnitId}
    {field : Battlefield} (added : placed.2.addUnit unit = .ok (id, field)) :
    Placed bare (earlier ++ [entry]) (placed.1 ++ [id], field) := by
  rcases Battlefield.addUnit_eq_ok added with ⟨roster, inserted, rfl⟩
  rcases Roster.insert_eq_ok inserted with ⟨number, units⟩
  refine ⟨?_, ?_, ?_, fun i => ?_, fun hex => ?_, fun room => ?_⟩
  · rw [account.frame]
  · rw [account.ids, List.length_append, List.length_singleton, List.range_succ, List.map_append,
      List.map_singleton, ← account.size, ← number]
  · rw [Roster.size_slots_insert inserted, account.size, List.length_append,
      List.length_singleton]
  · change _ = (roster.get? ⟨i⟩).map _
    rw [units, account.size]
    by_cases last : i = earlier.length
    · subst last
      rw [if_pos rfl, List.getElem?_concat_length]
      exact congrArg some listed
    · rw [if_neg last, ← account.units i, List.getElem?_append]
      split
      · rfl
      · rename_i beyond
        rw [List.getElem?_eq_none (by rw [List.length_singleton]; omega),
          List.getElem?_eq_none (Nat.le_of_not_lt beyond)]
  · rw [Roster.idAt?_insert inserted, (of_toCombatant listed).1, List.forall_mem_append,
      List.forall_mem_singleton, ← account.free]
    by_cases here : entry.hex = hex
    · rw [if_pos here]
      exact iff_of_false (by simp) fun apart => apart.2 here
    · rw [if_neg here]
      exact ⟨fun still => ⟨still, here⟩, And.left⟩
  · rw [List.length_append, List.length_singleton] at room
    exact (account.consistent (by omega)).insert (by rw [account.size]; omega) inserted

/-- A unit is placed on a hex of the board that is free. -/
theorem verdict_addUnit (field : Battlefield) (unit : Combatant) :
    Verdict (field.addUnit unit)
      (objection (¬ field.board.inBounds unit.hex = true) (.offMap unit.hex) ++
        objection (field.roster.idAt? unit.hex ≠ none) (.hexOccupied unit.hex))
      fun placed => field.addUnit unit = .ok placed := by
  apply Verdict.itself
  case Good => exact fun _ => True
  unfold Battlefield.addUnit Roster.insert
  refine Verdict.require fun _ => ?_
  cases field.roster.idAt? unit.hex with
  | none => exact ⟨objection_eq_nil_iff.mpr (not_not_intro rfl), trivial⟩
  | some id => exact rfl

theorem verdict_placeUnit {bare : Battlefield} {patches : List PatchEntry}
    (laid : Laid document patches bare.board) (earlier : List UnitEntry) (entry : UnitEntry)
    {placed : List UnitId × Battlefield} (account : Placed bare earlier placed) :
    Verdict (placeUnit placed entry) (document.unitObjections earlier entry)
      (Placed bare (earlier ++ [entry])) := by
  refine (verdict_toCombatant entry).bind fun unit listed => ?_
  rcases of_toCombatant listed with ⟨here, -⟩
  have board : placed.2.board = bare.board := by rw [account.frame]
  have covered : ¬ document.Covers entry.hex ↔ ¬ placed.2.board.inBounds entry.hex = true := by
    rw [board, laid.inBounds_iff]
  have taken : (∃ other ∈ earlier, other.hex = entry.hex) ↔
      placed.2.roster.idAt? entry.hex ≠ none := by
    rw [Ne, account.free]
    simp
  rw [objection_congr covered, objection_congr taken, ← here, ← List.append_nil (_ ++ _)]
  refine (verdict_addUnit placed.2 unit).bind fun added succeeded => ?_
  exact Verdict.pure (account.concat listed succeeded)

theorem verdict_placeUnits {bare : Battlefield} {patches : List PatchEntry}
    (laid : Laid document patches bare.board) (empty : bare.roster = .empty) :
    Verdict (document.units.foldlM placeUnit ([], bare))
      (objectionsAlong document.unitObjections [] document.units)
      (Placed bare document.units) :=
  Verdict.foldlM (fun earlier entry _ => verdict_placeUnit laid earlier entry) document.units []
    (placed_nil bare empty)

/-- What a catalog has come to after some of the templates, the last one in front. -/
def Catalogued (entries : List UnitEntry) (catalog : Catalog) : Prop :=
  entries.reverse.map UnitEntry.toCombatant = catalog.templates.map Except.ok

theorem verdict_addTemplate (earlier : List UnitEntry) (entry : UnitEntry) {catalog : Catalog}
    (catalogued : Catalogued earlier catalog) :
    Verdict (addTemplate catalog entry) (Document.sideObjections entry)
      (Catalogued (earlier ++ [entry])) := by
  refine (verdict_toCombatant entry).map fun template listed => ?_
  rw [Catalogued, List.reverse_concat, List.map_cons, catalogued, listed]
  rfl

theorem verdict_addTemplates (document : Document) :
    Verdict (document.templates.foldlM addTemplate {})
      (document.templates.flatMap Document.sideObjections) (Catalogued document.templates) := by
  rw [← objectionsAlong_const _ []]
  exact Verdict.foldlM (fun earlier entry _ => verdict_addTemplate earlier entry)
    document.templates [] rfl

theorem verdict_pickDuelist {ids : List UnitId}
    (numbered : ids = (List.range document.units.length).map fun i => ⟨low32 i⟩) (index : Nat) :
    Verdict (pickDuelist ids index) (document.duelistObjections index)
      fun id => id = ⟨low32 index⟩ := by
  unfold pickDuelist Document.duelistObjections
  rw [numbered, List.getElem?_map, List.length_map, List.length_range]
  by_cases listed : index < document.units.length
  · rw [List.getElem?_range listed]
    exact ⟨objection_eq_nil_iff.mpr (not_not_intro listed), rfl⟩
  · rw [List.getElem?_eq_none (by simpa using listed), objection, if_pos listed]
    exact rfl

theorem verdict_pickDuel {ids : List UnitId}
    (numbered : ids = (List.range document.units.length).map fun i => ⟨low32 i⟩)
    (duel : DuelEntry) :
    Verdict (pickDuel ids duel) (document.duelObjections duel)
      fun picked => picked = (⟨low32 duel.attacker⟩, ⟨low32 duel.defender⟩, duel.weapon) := by
  refine (verdict_pickDuelist numbered duel.attacker).bind fun attacker first => ?_
  rw [← List.append_nil (document.duelistObjections duel.defender)]
  refine (verdict_pickDuelist numbered duel.defender).bind fun defender second => ?_
  exact Verdict.pure (by rw [first, second])

theorem verdict_duel {ids : List UnitId}
    (numbered : ids = (List.range document.units.length).map fun i => ⟨low32 i⟩) :
    Verdict (document.duel.mapM (pickDuel ids))
      (document.duel.toList.flatMap document.duelObjections)
      fun picked => picked = document.duel.map fun duel =>
        (⟨low32 duel.attacker⟩, ⟨low32 duel.defender⟩, duel.weapon) := by
  cases document.duel with
  | none => exact Verdict.pure rfl
  | some duel =>
      rw [Option.toList_some, List.flatMap_singleton]
      exact (verdict_pickDuel numbered duel).map fun picked same => congrArg some same

end Layout

/-- A scenario is the one that a document describes.  The number of a unit is the low word of its
place in the list. -/
structure Scenario.Realizes (scenario : Scenario) (document : Layout.Document) : Prop where
  unitIds : scenario.unitIds = (List.range document.units.length).map fun i => ⟨low32 i⟩
  /-- Exactly the listed units are on the field, each in the slot of its place in the list. -/
  units : ∀ i, (document.units[i]?).map Layout.UnitEntry.toCombatant =
    (scenario.field.roster.get? ⟨i⟩).map Except.ok
  hitpoints : ∀ id unit, scenario.field.roster.get? id = some unit →
    unit.hitpoints ≤ unit.maxHitpoints
  consistent : document.units.length ≤ UInt32.size → scenario.field.roster.Consistent
  size : scenario.field.board.width = document.width ∧
    scenario.field.board.height = document.height
  terrain : ∀ hex, document.Covers hex →
    scenario.field.board.terrainAt? hex = some (Layout.laidOn document.terrain hex)
  setting : scenario.field.rules = document.rules ∧ scenario.field.time = document.time ∧
    scenario.field.teams = Layout.musterTeams document.sides
  /-- Of two templates of one type the later one counts. -/
  templates : document.templates.reverse.map Layout.UnitEntry.toCombatant =
    scenario.catalog.templates.map Except.ok
  duel : scenario.duel = document.duel.map fun duel =>
    (⟨low32 duel.attacker⟩, ⟨low32 duel.defender⟩, duel.weapon)

namespace Layout

variable {document : Document}

/-- A board, units, templates and a duel that have come out as the document has them make up the
scenario that it describes. -/
theorem realizes_of_accounts {board : Board} {bare field : Battlefield} {unitIds : List UnitId}
    {catalog : Catalog} (laid : Laid document document.terrain board)
    (setting : bare =
      { board, roster := .empty, teams := musterTeams document.sides, time := document.time
        rules := document.rules })
    (account : Placed bare document.units (unitIds, field))
    (catalogued : Catalogued document.templates catalog) :
    Scenario.Realizes
      { name := document.name, field, catalog, unitIds
        duel := document.duel.map fun duel =>
          (⟨low32 duel.attacker⟩, ⟨low32 duel.defender⟩, duel.weapon)
        aiSide := document.aiSide.map Side.mk } document := by
  subst setting
  have frame : field = _ := account.frame
  refine ⟨account.ids, account.units, fun id unit alive => ?_, account.consistent, ?_, ?_, ?_,
    catalogued, rfl⟩
  · have place := account.units id.val
    rw [alive] at place
    rcases Option.map_eq_some_iff.mp place with ⟨entry, -, listed⟩
    exact (of_toCombatant listed).2
  · rw [frame]
    exact ⟨laid.width, laid.height⟩
  · rw [frame]
    exact laid.terrain
  · rw [frame]
    exact ⟨rfl, rfl, rfl⟩

theorem verdict_build (document : Document) :
    Verdict document.build document.objections fun scenario => scenario.Realizes document := by
  unfold Document.build Document.objections
  cases document.rules.flaw? with
  | some flaw => exact rfl
  | none =>
      refine (verdict_layPatches document).bind fun board laid => ?_
      let bare : Battlefield :=
        { board, roster := .empty, teams := musterTeams document.sides, time := document.time
          rules := document.rules }
      have onBare : Laid document document.terrain bare.board := laid
      refine (verdict_placeUnits onBare rfl).bind fun placed account => ?_
      refine (verdict_addTemplates document).bind fun catalog catalogued => ?_
      rw [← List.append_nil (List.flatMap _ _)]
      refine (verdict_duel account.ids).bind fun duel same => ?_
      subst same
      exact Verdict.pure (realizes_of_accounts laid rfl account catalogued)

/-- The units of a well-formed document are no more than the hexes of its map. -/
theorem Document.WellFormed.length_units_le (wellFormed : document.WellFormed) :
    document.units.length ≤ document.width * document.height := by
  have apart : (document.units.map UnitEntry.hex).Nodup := List.pairwise_map.mpr wellFormed.apart
  have among : document.units.map UnitEntry.hex ⊆
      (Board.flat document.width document.height).hexes.map Prod.fst := by
    intro hex member
    rcases List.mem_map.mp member with ⟨entry, listed, rfl⟩
    exact Board.mem_hexes_of_inBounds (Board.inBounds_iff.mpr (wellFormed.units entry listed))
  have fits := apart.length_le_of_subset among
  rw [List.length_map, List.length_map, Board.length_hexes] at fits
  exact fits

/-- Exactly the well-formed documents describe a scenario.  Every other document is refused with the
first objection in the order of the checks; and a scenario is what its document describes, from the
numbers of its units to the terrain of each hex.  On a map whose hexes can be counted, the numbers
are the places in the list, and no two units share one. -/
theorem build_iff_wellFormed (document : Document) :
    ((∃ scenario, document.build = .ok scenario) ↔ document.WellFormed) ∧
      (∀ fault, document.build = .error fault ↔ document.objections.head? = some fault) ∧
      ∀ scenario, document.build = .ok scenario → scenario.Realizes document ∧
        (document.width * document.height ≤ UInt32.size →
          scenario.unitIds = (List.range document.units.length).map UnitId.mk ∧
            scenario.field.roster.Consistent) := by
  have verdict := verdict_build document
  refine ⟨?_, verdict.error_iff, fun scenario built => ?_⟩
  · rw [verdict.exists_ok_iff, Document.objections_eq_nil_iff]
  · have realizes := verdict.good_of_ok built
    refine ⟨realizes, fun countable => ?_⟩
    have wellFormed := Document.objections_eq_nil_iff.mp (verdict.exists_ok_iff.mp ⟨_, built⟩)
    have room := Nat.le_trans wellFormed.length_units_le countable
    refine ⟨realizes.unitIds.trans (List.map_congr_left fun i listed => ?_),
      realizes.consistent room⟩
    rw [low32_of_lt (Nat.lt_of_lt_of_le (List.mem_range.mp listed) room)]

/-! ## Two soldiers -/

def UnitEntry.soldier (side : Nat) (q : Int) : UnitEntry :=
  { unitType := "Soldier", side, q, r := 0, maxHitpoints := 30, hitpoints := some 40, level := 1
    experience := 0, cost := none, movement := none, movementType := .infantry
    alignment := .neutral, resistances := {}, abilities := {}, leader := false, living := true
    weapons :=
      [{ name := "club", damage := 8, strikes := 2, range := .melee, damageType := .impact
         defenseWeight := 1.0, specials := [] }] }

/-- Two soldiers on a map of two hexes, the second of which is laid with hills and then with a
village, and a duel between them. -/
def Document.standoff (second : Int) (weapon : Nat) : Document :=
  { name := "Standoff", width := 2, height := 1, time := .dusk, rules := {}, sides := []
    terrain := [⟨1, 0, .hills⟩, ⟨1, 0, .village⟩]
    units := [.soldier 1 0, .soldier 2 second]
    templates := []
    duel := some { attacker := 0, defender := 1, weapon }
    aiSide := none }

theorem Document.wellFormed_standoff (weapon : Nat) : (standoff 1 weapon).WellFormed := by
  refine ⟨rfl, by simp [standoff, Covers, PatchEntry.hex], by simp [standoff, UnitEntry.soldier],
    by simp [standoff, UnitEntry.soldier, Covers, UnitEntry.hex],
    by simp [standoff, UnitEntry.soldier, UnitEntry.hex], ?_⟩
  rintro duel ⟨⟩
  exact ⟨by simp [standoff], by simp [standoff]⟩

/-- The soldiers face each other, with no more hitpoints than they can have, and the second one in a
village; if they were to stand on one hex, that hex would be objected to. -/
theorem build_iff_wellFormed_standoff :
    (∃ scenario unit, (Document.standoff 1 0).build = .ok scenario ∧
        scenario.unitIds = [⟨0⟩, ⟨1⟩] ∧ scenario.field.roster.Consistent ∧
        scenario.field.roster.get? ⟨1⟩ = some unit ∧ unit.hitpoints ≤ unit.maxHitpoints ∧
        scenario.field.board.terrainAt? ⟨1, 0⟩ = some .village) ∧
      (Document.standoff 0 0).build = .error (.hexOccupied ⟨0, 0⟩) := by
  constructor
  · have sound := build_iff_wellFormed (.standoff 1 0)
    rcases sound.1.mpr (Document.wellFormed_standoff 0) with ⟨scenario, built⟩
    rcases sound.2.2 scenario built with ⟨realizes, counted⟩
    rcases counted (by decide) with ⟨numbers, consistent⟩
    have second := realizes.units 1
    rcases Option.map_eq_some_iff.mp second.symm with ⟨unit, alive, -⟩
    exact ⟨scenario, unit, built, numbers, consistent, alive, realizes.hitpoints _ _ alive,
      realizes.terrain ⟨1, 0⟩ (by decide)⟩
  · exact ((build_iff_wellFormed (.standoff 0 0)).2.1 _).mpr (by decide)

end Layout
end Hexfield
