import Hexfield.Movement.Reach
import Mathlib.Order.Bounds.Basic

namespace Hexfield
namespace Walk

/-!
A survey finds the least cost of every hex within the budget.

Between two settlings a survey is sound: it knows a route to every hex it mentions, no settled hex
costs more than one of the frontier, and whatever can be entered from a settled hex is settled or in
the frontier at no higher cost.  Settling the nearest hex of the frontier keeps this.  Each settling
uses up a hex that can be entered, so the frontier runs empty, and then a route that stays within
the budget cannot lead out of the settled hexes.
-/

variable {walk : Walk}

/-- The hexes that can be entered are among so many. -/
def EntersAtMost (walk : Walk) (size : Nat) : Prop :=
  ∃ cells : List Hex, cells.length ≤ size ∧ ∀ hex, (walk.entry hex).isSome → hex ∈ cells

/-- A route ends where it began or on a hex that can be entered. -/
theorem Route.eq_start_or_entry {hex : Hex} {cost : Nat} (route : walk.Route hex cost) :
    hex = walk.start ∨ (walk.entry hex).isSome := by
  cases route with
  | start => exact Or.inl rfl
  | step _ _ _ enters =>
      right
      rw [enters]
      rfl

namespace Survey

variable {survey : Survey}

/-! ## Reaching neighbours -/

/-- What becomes of the frontier when the neighbours of a hex are reached at a cost: no known cost
goes up, every hex that is new or cheaper is such a neighbour, and every such neighbour is known at
no higher cost than this way, as far as it is within the budget and not settled. -/
structure Widens (walk : Walk) (cost : Nat) (neighbors : List Hex) (before after : Survey) :
    Prop where
  settled : after.settled = before.settled
  known : ∀ {hex : Hex} {total : Nat}, before.frontier[hex]? = some total →
    ∃ less, less ≤ total ∧ after.frontier[hex]? = some less
  origin : ∀ {hex : Hex} {total : Nat}, after.frontier[hex]? = some total →
    before.frontier[hex]? = some total ∨
      hex ∈ neighbors ∧ hex ∉ before.settled ∧ total ≤ walk.budget ∧
        ∃ price, walk.entry hex = some price ∧ total = cost + price
  offered : ∀ {hex : Hex} {price : Nat}, hex ∈ neighbors → walk.entry hex = some price →
    cost + price ≤ walk.budget → hex ∉ before.settled →
      ∃ less, less ≤ cost + price ∧ after.frontier[hex]? = some less

namespace Widens

variable {cost : Nat} {first second third : Survey}

theorem unchanged {neighbors : List Hex} {survey : Survey}
    (known : ∀ {hex : Hex} {price : Nat}, hex ∈ neighbors → walk.entry hex = some price →
      cost + price ≤ walk.budget → hex ∉ survey.settled →
        ∃ less, less ≤ cost + price ∧ survey.frontier[hex]? = some less) :
    Widens walk cost neighbors survey survey :=
  ⟨rfl, fun {_ total} found => ⟨total, Nat.le_refl total, found⟩, Or.inl, known⟩

theorem append {left right : List Hex} (here : Widens walk cost left first second)
    (there : Widens walk cost right second third) :
    Widens walk cost (left ++ right) first third := by
  constructor
  · exact there.settled.trans here.settled
  · intro hex total found
    rcases here.known found with ⟨less, le, found⟩
    rcases there.known found with ⟨least, le', found⟩
    exact ⟨least, Nat.le_trans le' le, found⟩
  · intro hex total found
    rcases there.origin found with found | ⟨member, unsettled, affordable, enters⟩
    · rcases here.origin found with found | ⟨member, rest⟩
      · exact Or.inl found
      · exact Or.inr ⟨List.mem_append_left _ member, rest⟩
    · rw [here.settled] at unsettled
      exact Or.inr ⟨List.mem_append_right _ member, unsettled, affordable, enters⟩
  · intro hex price member enters affordable unsettled
    rcases List.mem_append.mp member with inLeft | inRight
    · rcases here.offered inLeft enters affordable unsettled with ⟨less, le, found⟩
      rcases there.known found with ⟨least, le', found⟩
      exact ⟨least, Nat.le_trans le' le, found⟩
    · rw [← here.settled] at unsettled
      exact there.offered inRight enters affordable unsettled

end Widens

/-- A hex that is not settled comes into the frontier at a lower cost than any that is known. -/
theorem widens_insert {neighbor : Hex} {cost price : Nat}
    (enters : walk.entry neighbor = some price) (affordable : cost + price ≤ walk.budget)
    (unsettled : neighbor ∉ survey.settled)
    (cheaper : ∀ known, survey.frontier[neighbor]? = some known → cost + price ≤ known) :
    Widens walk cost [neighbor] survey
      { survey with frontier := survey.frontier.insert neighbor (cost + price) } := by
  constructor
  · rfl
  · intro hex total found
    by_cases same : neighbor = hex
    · subst same
      exact ⟨cost + price, cheaper total found, by simp⟩
    · exact ⟨total, Nat.le_refl total, by simpa [Std.ExtTreeMap.getElem?_insert, same] using found⟩
  · intro hex total found
    by_cases same : neighbor = hex
    · subst same
      have exactly : cost + price = total := by simpa using found
      exact Or.inr ⟨List.mem_singleton_self _, unsettled, exactly ▸ affordable, price, enters,
        exactly.symm⟩
    · exact Or.inl (by simpa [Std.ExtTreeMap.getElem?_insert, same] using found)
  · intro hex price' member enters' affordable' unsettled'
    obtain rfl := List.mem_singleton.mp member
    rw [enters] at enters'
    cases enters'
    exact ⟨cost + price, Nat.le_refl _, by simp⟩

theorem widens_reach (walk : Walk) (cost : Nat) (survey : Survey) (neighbor : Hex) :
    Widens walk cost [neighbor] survey (survey.reach walk cost neighbor) := by
  unfold reach
  split
  · rename_i barred
    apply Widens.unchanged
    intro hex price member enters
    obtain rfl := List.mem_singleton.mp member
    rw [barred] at enters
    cases enters
  · rename_i price enters
    simp only
    split
    · rename_i beyond
      apply Widens.unchanged
      intro hex price' member enters' affordable unsettled
      obtain rfl := List.mem_singleton.mp member
      rw [enters] at enters'
      cases enters'
      rcases beyond with tooFar | settled
      · omega
      · exact absurd settled unsettled
    · rename_i within
      have affordable : cost + price ≤ walk.budget := by omega
      have unsettled : neighbor ∉ survey.settled := fun settled => within (Or.inr settled)
      split
      · rename_i known found
        split
        · rename_i less
          apply widens_insert enters affordable unsettled
          intro total found'
          rw [found] at found'
          cases found'
          omega
        · rename_i notLess
          apply Widens.unchanged
          intro hex price' member enters' _ _
          obtain rfl := List.mem_singleton.mp member
          rw [enters] at enters'
          cases enters'
          exact ⟨known, by omega, found⟩
      · rename_i unknown
        apply widens_insert enters affordable unsettled
        intro total found
        rw [unknown] at found
        cases found

theorem widens_foldl (walk : Walk) (cost : Nat) (neighbors : List Hex) (survey : Survey) :
    Widens walk cost neighbors survey (neighbors.foldl (reach walk cost) survey) := by
  induction neighbors generalizing survey with
  | nil => exact Widens.unchanged (fun member => by cases member)
  | cons neighbor rest ih =>
      exact (widens_reach walk cost survey neighbor).append (ih _)

/-! ## The nearest hex -/

private theorem foldl_cheaper (candidates : List (Hex × Nat)) (leader : Hex × Nat) :
    ∃ best, candidates.foldl cheaper (some leader) = some best ∧
      best ∈ leader :: candidates ∧ ∀ candidate ∈ leader :: candidates, best.2 ≤ candidate.2 := by
  induction candidates generalizing leader with
  | nil => exact ⟨leader, rfl, List.mem_singleton_self _, by simp⟩
  | cons candidate rest ih =>
      by_cases less : candidate.2 < leader.2
      · rcases ih candidate with ⟨best, chosen, member, least⟩
        refine ⟨best, ?_, List.mem_cons_of_mem _ member, ?_⟩
        · simp only [List.foldl_cons, cheaper, if_pos less, chosen]
        · intro other among
          rcases List.mem_cons.mp among with rfl | among
          · have := least candidate (List.mem_cons_self ..)
            omega
          · exact least other among
      · rcases ih leader with ⟨best, chosen, member, least⟩
        refine ⟨best, ?_, ?_, ?_⟩
        · simp only [List.foldl_cons, cheaper, if_neg less, chosen]
        · rcases List.mem_cons.mp member with rfl | among
          · exact List.mem_cons_self ..
          · exact List.mem_cons_of_mem _ (List.mem_cons_of_mem _ among)
        · intro other among
          have first := least leader (List.mem_cons_self ..)
          rcases List.mem_cons.mp among with rfl | among
          · exact first
          · rcases List.mem_cons.mp among with rfl | among
            · omega
            · exact least other (List.mem_cons_of_mem _ among)

/-- The nearest hex is in the frontier, and none of the frontier costs less. -/
theorem nearest?_eq_some {hex : Hex} {cost : Nat} (nearest : survey.nearest? = some (hex, cost)) :
    survey.frontier[hex]? = some cost ∧
      ∀ {far : Hex} {total : Nat}, survey.frontier[far]? = some total → cost ≤ total := by
  unfold nearest? at nearest
  cases listed : survey.frontier.toList with
  | nil =>
      rw [listed] at nearest
      cases nearest
  | cons leader rest =>
      rcases foldl_cheaper rest leader with ⟨best, chosen, member, least⟩
      rw [listed, List.foldl_cons, cheaper, chosen] at nearest
      cases nearest
      rw [← listed] at member least
      refine ⟨Std.ExtTreeMap.mem_toList_iff_getElem?_eq_some.mp member, ?_⟩
      intro far total found
      exact least (far, total) (Std.ExtTreeMap.mem_toList_iff_getElem?_eq_some.mpr found)

theorem frontier_of_nearest?_eq_none (nowhere : survey.nearest? = none) (hex : Hex) :
    survey.frontier[hex]? = none := by
  unfold nearest? at nowhere
  cases listed : survey.frontier.toList with
  | nil =>
      rw [Std.ExtTreeMap.toList_eq_nil_iff.mp listed]
      exact Std.ExtTreeMap.getElem?_empty
  | cons leader rest =>
      rcases foldl_cheaper rest leader with ⟨best, chosen, -, -⟩
      rw [listed, List.foldl_cons, cheaper, chosen] at nowhere
      cases nowhere

/-! ## Sound surveys -/

/-- A hex is settled or in the frontier, at no more than a cost. -/
def Covers (survey : Survey) (hex : Hex) (cost : Nat) : Prop :=
  ∃ least, least ≤ cost ∧
    (survey.settled[hex]? = some least ∨ survey.frontier[hex]? = some least)

/-- What holds of a survey between two settlings. -/
structure Sound (walk : Walk) (survey : Survey) : Prop where
  start : survey.Covers walk.start 0
  settled : ∀ {hex : Hex} {cost : Nat}, survey.settled[hex]? = some cost →
    walk.Route hex cost ∧ cost ≤ walk.budget
  frontier : ∀ {hex : Hex} {cost : Nat}, survey.frontier[hex]? = some cost →
    walk.Route hex cost ∧ cost ≤ walk.budget ∧ hex ∉ survey.settled
  ordered : ∀ {near far : Hex} {cost total : Nat}, survey.settled[near]? = some cost →
    survey.frontier[far]? = some total → cost ≤ total
  closed : ∀ {hex next : Hex} {cost price : Nat}, survey.settled[hex]? = some cost →
    (hex = walk.start ∨ walk.halts hex = false) → next ∈ hex.neighbors →
      walk.entry next = some price → cost + price ≤ walk.budget →
        survey.Covers next (cost + price)

theorem sound_start (walk : Walk) : (start walk).Sound walk := by
  constructor
  · exact ⟨0, Nat.le_refl 0, Or.inr (by simp [start])⟩
  · intro hex cost found
    simp [start] at found
  · intro hex cost found
    by_cases same : walk.start = hex
    · subst same
      have free : 0 = cost := by simpa [start] using found
      subst free
      exact ⟨.start, Nat.zero_le _, by simp [start]⟩
    · simp [start, same] at found
  · intro near far cost total found
    simp [start] at found
  · intro hex next cost price found
    simp [start] at found

/-- A hex of the frontier counts as settled, before its neighbours are reached. -/
def promote (survey : Survey) (hex : Hex) (cost : Nat) : Survey :=
  { settled := survey.settled.insert hex cost, frontier := survey.frontier.erase hex }

theorem settled_promote (survey : Survey) (hex other : Hex) (cost : Nat) :
    (survey.promote hex cost).settled[other]? =
      if hex = other then some cost else survey.settled[other]? := by
  simp [promote, Std.ExtTreeMap.getElem?_insert]

theorem frontier_promote (survey : Survey) (hex other : Hex) (cost : Nat) :
    (survey.promote hex cost).frontier[other]? =
      if hex = other then none else survey.frontier[other]? := by
  simp [promote, Std.ExtTreeMap.getElem?_erase]

/-- Settling reaches all neighbours of a hex that may be left, and none of one that may not. -/
theorem settle_eq (walk : Walk) (survey : Survey) (hex : Hex) (cost : Nat) :
    survey.settle walk hex cost =
      if hex ≠ walk.start ∧ walk.halts hex then survey.promote hex cost
      else hex.neighbors.foldl (reach walk cost) (survey.promote hex cost) :=
  rfl

/-- The neighbours that are reached from a hex: all or none. -/
theorem exists_widens_settle (walk : Walk) (survey : Survey) (hex : Hex) (cost : Nat) :
    ∃ neighbors, Widens walk cost neighbors (survey.promote hex cost)
        (survey.settle walk hex cost) ∧
      (∀ next ∈ neighbors, next ∈ hex.neighbors ∧ (hex = walk.start ∨ walk.halts hex = false)) ∧
      (hex = walk.start ∨ walk.halts hex = false → neighbors = hex.neighbors) := by
  rw [settle_eq]
  by_cases stops : hex ≠ walk.start ∧ walk.halts hex
  · rw [if_pos stops]
    refine ⟨[], Widens.unchanged (fun member => by cases member), by simp, ?_⟩
    rintro (same | free)
    · exact absurd same stops.1
    · rw [free] at stops
      cases stops.2
  · rw [if_neg stops]
    have leaves : hex = walk.start ∨ walk.halts hex = false := by
      by_cases same : hex = walk.start
      · exact Or.inl same
      · exact Or.inr (Bool.eq_false_iff.mpr fun halts => stops ⟨same, halts⟩)
    exact ⟨hex.neighbors, widens_foldl walk cost hex.neighbors _,
      fun next member => ⟨member, leaves⟩, fun _ => rfl⟩

theorem Covers.settle {hex other : Hex} {cost total : Nat}
    (nearest : survey.frontier[hex]? = some cost) (covers : survey.Covers other total)
    (unsettled : hex ∉ survey.settled) : (survey.settle walk hex cost).Covers other total := by
  rcases exists_widens_settle walk survey hex cost with ⟨neighbors, widens, -, -⟩
  rcases covers with ⟨least, le, found⟩
  by_cases same : hex = other
  · subst same
    have exactly : least = cost := by
      rcases found with settled | reached
      · exact absurd (Std.ExtTreeMap.mem_iff_isSome_getElem?.mpr (by rw [settled]; rfl)) unsettled
      · rw [nearest] at reached
        cases reached
        rfl
    subst exactly
    exact ⟨least, le, Or.inl (by rw [widens.settled, settled_promote, if_pos rfl])⟩
  · rcases found with settled | reached
    · exact ⟨least, le, Or.inl (by rw [widens.settled, settled_promote, if_neg same, settled])⟩
    · have kept : (survey.promote hex cost).frontier[other]? = some least := by
        rw [frontier_promote, if_neg same, reached]
      rcases widens.known kept with ⟨less, le', reached'⟩
      exact ⟨less, Nat.le_trans le' le, Or.inr reached'⟩

/-- Settling the nearest hex of the frontier keeps a survey sound. -/
theorem Sound.settle (sound : survey.Sound walk) {hex : Hex} {cost : Nat}
    (nearest : survey.nearest? = some (hex, cost)) : (survey.settle walk hex cost).Sound walk := by
  rcases nearest?_eq_some nearest with ⟨inFrontier, least⟩
  rcases sound.frontier inFrontier with ⟨route, affordable, unsettled⟩
  rcases exists_widens_settle walk survey hex cost with ⟨neighbors, widens, leaving, all⟩
  have settled_iff : ∀ other, (survey.settle walk hex cost).settled[other]? =
      if hex = other then some cost else survey.settled[other]? := by
    intro other
    rw [widens.settled, settled_promote]
  -- Whatever is in the frontier afterwards was there before or lies next to `hex`.
  have origin : ∀ {other : Hex} {total : Nat},
      (survey.settle walk hex cost).frontier[other]? = some total →
      hex ≠ other ∧ (survey.frontier[other]? = some total ∨
        other ∈ hex.neighbors ∧ (hex = walk.start ∨ walk.halts hex = false) ∧
          other ∉ survey.settled ∧ total ≤ walk.budget ∧
          ∃ price, walk.entry other = some price ∧ total = cost + price) := by
    intro other total found
    rcases widens.origin found with kept | ⟨member, fresh, within, enters⟩
    · rw [frontier_promote] at kept
      split at kept
      · cases kept
      · rename_i different
        exact ⟨different, Or.inl kept⟩
    · have apart : hex ≠ other ∧ other ∉ survey.settled := by
        simpa [promote, Std.ExtTreeMap.mem_insert] using fresh
      rcases leaving other member with ⟨beside, free⟩
      exact ⟨apart.1, Or.inr ⟨beside, free, apart.2, within, enters⟩⟩
  constructor
  · exact sound.start.settle inFrontier unsettled
  · intro other total found
    rw [settled_iff] at found
    split at found
    · rename_i same
      cases found
      subst same
      exact ⟨route, affordable⟩
    · exact sound.settled found
  · intro other total found
    rcases origin found with ⟨different, old | ⟨beside, free, fresh, within, price, enters, rfl⟩⟩
    · rcases sound.frontier old with ⟨route', affordable', unsettled'⟩
      refine ⟨route', affordable', ?_⟩
      rw [Std.ExtTreeMap.mem_iff_isSome_getElem?, settled_iff, if_neg different,
        ← Std.ExtTreeMap.mem_iff_isSome_getElem?]
      exact unsettled'
    · refine ⟨.step route free beside enters, within, ?_⟩
      rw [Std.ExtTreeMap.mem_iff_isSome_getElem?, settled_iff, if_neg different,
        ← Std.ExtTreeMap.mem_iff_isSome_getElem?]
      exact fresh
  · intro near far spent total found found'
    rw [settled_iff] at found
    have notNearer : cost ≤ total := by
      rcases (origin found').2 with old | ⟨-, -, -, -, price, -, rfl⟩
      · exact least old
      · omega
    split at found
    · cases found
      exact notNearer
    · exact Nat.le_trans (sound.ordered found inFrontier) notNearer
  · intro other next spent price found free beside enters within
    rw [settled_iff] at found
    split at found
    · rename_i same
      cases found
      subst same
      by_cases known : next ∈ (survey.promote hex cost).settled
      · rcases Option.isSome_iff_exists.mp (Std.ExtTreeMap.mem_iff_isSome_getElem?.mp known) with
          ⟨total, settled⟩
        refine ⟨total, ?_, Or.inl (by rw [widens.settled, settled])⟩
        rw [settled_promote] at settled
        split at settled
        · cases settled
          omega
        · have := sound.ordered settled inFrontier
          omega
      · rcases widens.offered (all free ▸ beside) enters within known with ⟨less, le, reached⟩
        exact ⟨less, le, Or.inr reached⟩
    · exact (sound.closed found free beside enters within).settle inFrontier unsettled

/-! ## The end of a survey -/

/-- There are no more settled hexes than can be entered, the start apart; and fewer, as long as the
frontier is not empty. -/
theorem Sound.size_settled_lt (sound : survey.Sound walk) {size : Nat}
    (bounded : walk.EntersAtMost size) {hex : Hex} {cost : Nat}
    (inFrontier : survey.frontier[hex]? = some cost) : survey.settled.size < size + 1 := by
  rcases bounded with ⟨cells, few, enclosed⟩
  have cell : ∀ {other : Hex} {total : Nat},
      walk.Route other total → other ∈ walk.start :: cells := by
    intro other total route
    rcases route.eq_start_or_entry with same | entered
    · exact same ▸ List.mem_cons_self ..
    · exact List.mem_cons_of_mem _ (enclosed other entered)
  rcases sound.frontier inFrontier with ⟨route, -, unsettled⟩
  have distinct : (hex :: survey.settled.keys).Nodup := by
    refine List.nodup_cons.mpr ⟨fun member => unsettled (Std.ExtTreeMap.mem_keys.mp member), ?_⟩
    exact Std.ExtTreeMap.nodup_keys
  have among : hex :: survey.settled.keys ⊆ walk.start :: cells := by
    intro other member
    rcases List.mem_cons.mp member with rfl | settled
    · exact cell route
    · rcases Option.isSome_iff_exists.mp (Std.ExtTreeMap.mem_iff_isSome_getElem?.mp
        (Std.ExtTreeMap.mem_keys.mp settled)) with ⟨total, found⟩
      exact cell (sound.settled found).1
  have fits := distinct.length_le_of_subset among
  rw [List.length_cons, List.length_cons, Std.ExtTreeMap.length_keys] at fits
  omega

/-- A survey that may settle as many hexes as can be entered leaves no frontier. -/
theorem Sound.settleAll {size : Nat} (bounded : walk.EntersAtMost size) (count : Nat) :
    ∀ {survey : Survey}, survey.Sound walk → size + 1 ≤ survey.settled.size + count →
      (survey.settleAll walk count).Sound walk ∧
        ∀ hex : Hex, (survey.settleAll walk count).frontier[hex]? = none := by
  induction count with
  | zero =>
      intro survey sound enough
      refine ⟨sound, fun hex => ?_⟩
      by_contra reached
      rcases Option.ne_none_iff_exists'.mp reached with ⟨cost, found⟩
      have := sound.size_settled_lt bounded found
      omega
  | succ count ih =>
      intro survey sound enough
      unfold Survey.settleAll
      cases nearest : survey.nearest? with
      | none => exact ⟨sound, frontier_of_nearest?_eq_none nearest⟩
      | some found =>
          rcases found with ⟨hex, cost⟩
          rcases exists_widens_settle walk survey hex cost with ⟨neighbors, widens, -, -⟩
          have unsettled := (sound.frontier (nearest?_eq_some nearest).1).2.2
          have more : (survey.settle walk hex cost).settled.size = survey.settled.size + 1 := by
            rw [widens.settled]
            exact Std.ExtTreeMap.size_insert.trans (if_neg (by simpa using unsettled))
          exact ih (sound.settle nearest) (by omega)

/-- Once the frontier is empty, every route within the budget has been settled at no higher cost. -/
theorem Sound.settled_of_route (sound : survey.Sound walk)
    (finished : ∀ hex : Hex, survey.frontier[hex]? = none) {hex : Hex} {cost : Nat}
    (route : walk.Route hex cost) (affordable : cost ≤ walk.budget) :
    ∃ least, least ≤ cost ∧ survey.settled[hex]? = some least := by
  have settled_of_covers : ∀ {other : Hex} {total : Nat}, survey.Covers other total →
      ∃ least, least ≤ total ∧ survey.settled[other]? = some least := by
    rintro other total ⟨least, le, settled | reached⟩
    · exact ⟨least, le, settled⟩
    · rw [finished other] at reached
      cases reached
  induction route with
  | start => exact settled_of_covers sound.start
  | @step middle next spent price _ free beside enters ih =>
      rcases ih (by omega) with ⟨least, le, settled⟩
      rcases settled_of_covers (sound.closed settled free beside enters (by omega)) with
        ⟨less, le', settled'⟩
      exact ⟨less, by omega, settled'⟩

end Survey

theorem pairwise_reachable (walk : Walk) (size : Nat) :
    (walk.reachable size).Pairwise fun a b => compare a.hex b.hex = .lt := by
  unfold reachable
  rw [List.pairwise_map]
  exact Std.ExtTreeMap.ordered_keys_toList

/-- A walk reaches a hex exactly at the least cost of its routes, if that is within the budget. -/
theorem mem_reachable_iff {size : Nat} (bounded : walk.EntersAtMost size) {hex : Hex}
    {cost : Nat} :
    ⟨hex, cost⟩ ∈ walk.reachable size ↔
      IsLeast {total | walk.Route hex total} cost ∧ cost ≤ walk.budget := by
  have listed : ⟨hex, cost⟩ ∈ walk.reachable size ↔
      ((Survey.start walk).settleAll walk (size + 1)).settled[hex]? = some cost := by
    simp [reachable, Std.ExtTreeMap.mem_toList_iff_getElem?_eq_some]
  rcases Survey.Sound.settleAll bounded (size + 1) (Survey.sound_start walk) (by omega) with
    ⟨sound, finished⟩
  rw [listed]
  constructor
  · intro settled
    rcases sound.settled settled with ⟨route, affordable⟩
    refine ⟨⟨route, ?_⟩, affordable⟩
    intro total route'
    by_cases within : total ≤ walk.budget
    · rcases sound.settled_of_route finished route' within with ⟨least, le, settled'⟩
      rw [settled] at settled'
      cases settled'
      exact le
    · omega
  · rintro ⟨⟨route, least⟩, affordable⟩
    rcases sound.settled_of_route finished route affordable with ⟨less, le, settled⟩
    have same : less = cost := Nat.le_antisymm le (least (sound.settled settled).1)
    rw [settled, same]

end Walk
end Hexfield
