import BoostGateway.Base.Run
import Mathlib.Algebra.Order.Group.Abs
import Mathlib.Algebra.Order.Group.Int
import Mathlib.Data.Int.Range
import Mathlib.Data.List.Nodup
import Mathlib.Data.List.Perm.Basic
import Mathlib.Logic.Function.Basic

/-!
# The spatial grid

`SpatialGrid` (`spatial_grid.cpp`) keeps every entity in the cell of its last position. A
position outside of the world counts for the cell at the border, a division rounds toward zero,
and an entity is taken out of its cell by the last one of the cell.

Every entity is in its cell and in no other (`GridRun.OwnCell`). A query looks into the cells
between those of its corners, which it computes with the 32 bits of the coordinates : it finds
the entities around it exactly when no corner runs over, or runs over into the cells that the
border has anyway (`Covers`, `GridRun.grid_iff`).
-/

namespace BoostGateway.Aoi

/-- The number of an entity. -/
abbrev EntityId := UInt32

/-- `std::clamp` -/
def clamp (v lo hi : Int32) : Int32 := if v < lo then lo else if hi < v then hi else v

/-- `std::max` with 1. -/
def atLeastOne (v : Int32) : Int32 := if 1 < v then v else 1

/-- `cells` are the cells by their indices. -/
structure SpatialGrid where
  cellSize : Int32
  gridWidthCells : Int32
  gridHeightCells : Int32
  cells : ℕ → List EntityId := fun _ => []
  entityPositions : EntityId → Option (Int32 × Int32) := fun _ => none

/-- The entity is replaced by the last one of the cell, which is dropped. -/
def swapAndPop (cell : List EntityId) (entity : EntityId) : List EntityId :=
  match cell.getLast? with
  | none => cell
  | some last =>
    if cell.idxOf entity < cell.length then (cell.set (cell.idxOf entity) last).dropLast else cell

namespace SpatialGrid

def new (worldWidth worldHeight cellSize : Int32) : SpatialGrid where
  cellSize := cellSize
  gridWidthCells := atLeastOne ((worldWidth + cellSize - 1) / cellSize)
  gridHeightCells := atLeastOne ((worldHeight + cellSize - 1) / cellSize)

variable (g : SpatialGrid)

def cellCoordX (x : Int32) : Int32 :=
  clamp (x / g.cellSize) 0 (g.gridWidthCells - 1)

def cellCoordY (y : Int32) : Int32 :=
  clamp (y / g.cellSize) 0 (g.gridHeightCells - 1)

def cellIndex (cellX cellY : ℤ) : ℕ :=
  cellY.toNat * g.gridWidthCells.toInt.toNat + cellX.toNat

def add (entity : EntityId) (x y : Int32) : SpatialGrid :=
  if (g.entityPositions entity).isSome then g
  else
    let cx := g.cellCoordX x
    let cy := g.cellCoordY y
    let index := g.cellIndex cx.toInt cy.toInt
    { g with
      cells := Function.update g.cells index (g.cells index ++ [entity])
      entityPositions := Function.update g.entityPositions entity (some (cx, cy)) }

def remove (entity : EntityId) : SpatialGrid :=
  match g.entityPositions entity with
  | none => g
  | some (cx, cy) =>
    let index := g.cellIndex cx.toInt cy.toInt
    { g with
      cells := Function.update g.cells index (swapAndPop (g.cells index) entity)
      entityPositions := Function.update g.entityPositions entity none }

def move (entity : EntityId) (newX newY : Int32) : SpatialGrid :=
  match g.entityPositions entity with
  | none => g
  | some (oldCx, oldCy) =>
    let newCx := g.cellCoordX newX
    let newCy := g.cellCoordY newY
    let entityPositions := Function.update g.entityPositions entity (some (newCx, newCy))
    if oldCx = newCx ∧ oldCy = newCy then { g with entityPositions }
    else
      let oldIndex := g.cellIndex oldCx.toInt oldCy.toInt
      let cells := Function.update g.cells oldIndex (swapAndPop (g.cells oldIndex) entity)
      let newIndex := g.cellIndex newCx.toInt newCy.toInt
      { g with
        cells := Function.update cells newIndex (cells newIndex ++ [entity])
        entityPositions }

/-- The entities of the cells between the corners, row by row. -/
def query (x y radius : Int32) : List EntityId :=
  if radius < 0 then []
  else
    let minCx := g.cellCoordX (x - radius)
    let maxCx := g.cellCoordX (x + radius)
    let minCy := g.cellCoordY (y - radius)
    let maxCy := g.cellCoordY (y + radius)
    (Int.range minCy.toInt (maxCy.toInt + 1)).flatMap fun cy =>
      (Int.range minCx.toInt (maxCx.toInt + 1)).flatMap fun cx => g.cells (g.cellIndex cx cy)

def clear : SpatialGrid :=
  { g with cells := fun _ => [], entityPositions := fun _ => none }

end SpatialGrid

/-- The calls. -/
inductive GridOp
  | add (entity : EntityId) (x y : Int32)
  | remove (entity : EntityId)
  | move (entity : EntityId) (newX newY : Int32)
  | clear

/-- A grid with the last position of every entity that it tracks. An entity that is tracked is
not added again. -/
structure GridRun where
  grid : SpatialGrid
  positions : EntityId → Option (Int32 × Int32) := fun _ => none

namespace GridRun

def step (s : GridRun) : GridOp → Option GridRun
  | .add entity x y =>
    some {
      grid := s.grid.add entity x y
      positions :=
        if (s.positions entity).isSome then s.positions
        else Function.update s.positions entity (some (x, y)) }
  | .remove entity =>
    some {
      grid := s.grid.remove entity
      positions := Function.update s.positions entity none }
  | .move entity newX newY =>
    some {
      grid := s.grid.move entity newX newY
      positions :=
        if (s.positions entity).isSome then
          Function.update s.positions entity (some (newX, newY))
        else s.positions }
  | .clear => some { grid := s.grid.clear }

/-- The runs of a grid. -/
abbrev Reaches (worldWidth worldHeight cellSize : Int32) : GridRun → Prop :=
  BoostGateway.Reaches (· = { grid := .new worldWidth worldHeight cellSize }) step fun _ _ => True

/-- The cell of a position. -/
def cellOf (g : SpatialGrid) (x y : Int32) : ℕ :=
  g.cellIndex (g.cellCoordX x).toInt (g.cellCoordY y).toInt

/-- An entity is once in the cell of its last position, and in no other. -/
def OwnCell (s : GridRun) : Prop :=
  ∀ entity i, (s.grid.cells i).count entity = match s.positions entity with
    | some (x, y) => if i = cellOf s.grid x y then 1 else 0
    | none => 0

/-- What a query is for. -/
structure Finds (s : GridRun) (x y radius : Int32) : Prop where
  once : ∀ entity, (s.grid.query x y radius).count entity ≤ 1
  near : ∀ entity ex ey, s.positions entity = some (ex, ey) →
    |ex.toInt - x.toInt| ≤ radius.toInt → |ey.toInt - y.toInt| ≤ radius.toInt →
      entity ∈ s.grid.query x y radius

/-- A corner that runs over comes to the cell of the border all the same. -/
structure Covers (g : SpatialGrid) (x y radius : Int32) : Prop where
  left : -2 ^ 31 ≤ x.toInt - radius.toInt ∨ g.cellCoordX (x - radius) = 0
  right : x.toInt + radius.toInt < 2 ^ 31 ∨ g.cellCoordX (x + radius) = g.gridWidthCells - 1
  top : -2 ^ 31 ≤ y.toInt - radius.toInt ∨ g.cellCoordY (y - radius) = 0
  bottom : y.toInt + radius.toInt < 2 ^ 31 ∨ g.cellCoordY (y + radius) = g.gridHeightCells - 1

end GridRun

/-! ## One axis -/

/-- The cell of a coordinate among `n` cells. -/
def coord (cellSize n x : Int32) : Int32 := clamp (x / cellSize) 0 (n - 1)

/-- The cells of an axis, up to a coordinate of 32 bits. -/
structure Axis (cellSize n : Int32) : Prop where
  size : 0 < cellSize.toInt
  pos : 1 ≤ n.toInt
  le : n.toInt - 1 ≤ (2 ^ 31 - 1 : ℤ).tdiv cellSize.toInt

section Axis

variable {cellSize n x x' : Int32}

theorem toInt_clamp (v lo hi : Int32) : (clamp v lo hi).toInt =
    if v.toInt < lo.toInt then lo.toInt else if hi.toInt < v.toInt then hi.toInt else v.toInt := by
  unfold clamp
  simp only [Int32.lt_iff_toInt_lt]
  split_ifs <;> rfl

theorem axis_new (hsize : 0 < cellSize) (v : Int32) :
    Axis cellSize (atLeastOne (v / cellSize)) := by
  have hpos : 0 < cellSize.toInt := Int32.lt_iff_toInt_lt.mp hsize
  have hmax : 0 ≤ (2 ^ 31 - 1 : ℤ).tdiv cellSize.toInt :=
    Int.tdiv_nonneg (by decide) hpos.le
  refine ⟨hpos, ?_, ?_⟩
  · unfold atLeastOne
    split_ifs with hlt
    · exact (Int32.lt_iff_toInt_lt.mp hlt).le
    · exact le_refl (1 : ℤ)
  · unfold atLeastOne
    split_ifs with hlt
    · have hne : cellSize ≠ -1 := by
        rintro rfl
        exact absurd hpos (by decide)
      have hv := v.toInt_lt
      have hle := Int.tdiv_le_tdiv hpos (Int.le_sub_one_of_lt hv)
      rw [Int32.toInt_div_of_ne_right v cellSize hne]
      omega
    · exact hmax

theorem Axis.toInt_sub_one (h : Axis cellSize n) : (n - 1).toInt = n.toInt - 1 := by
  have hone : (1 : Int32).toInt = 1 := rfl
  have hpos := h.pos
  have hlt := n.toInt_lt
  rw [Int32.toInt_sub, hone]
  exact Int.bmod_eq_of_le (by omega) (by omega)

theorem Axis.toInt_coord (h : Axis cellSize n) (x : Int32) :
    (coord cellSize n x).toInt = max 0 (min (n.toInt - 1) (x.toInt.tdiv cellSize.toInt)) := by
  have hpos := h.pos
  have hne : cellSize ≠ -1 := by
    rintro rfl
    exact absurd h.size (by decide)
  have hzero : (0 : Int32).toInt = 0 := rfl
  rw [coord, toInt_clamp, Int32.toInt_div_of_ne_right x cellSize hne, h.toInt_sub_one, hzero]
  split_ifs <;> omega

theorem Axis.coord_mono (h : Axis cellSize n) (hle : x.toInt ≤ x'.toInt) :
    (coord cellSize n x).toInt ≤ (coord cellSize n x').toInt := by
  have hdiv := Int.tdiv_le_tdiv h.size hle
  rw [h.toInt_coord, h.toInt_coord]
  omega

theorem Axis.coord_nonneg (h : Axis cellSize n) (x : Int32) :
    0 ≤ (coord cellSize n x).toInt := by
  rw [h.toInt_coord]
  exact le_max_left _ _

theorem Axis.coord_lt (h : Axis cellSize n) (x : Int32) :
    (coord cellSize n x).toInt < n.toInt := by
  have hpos := h.pos
  rw [h.toInt_coord]
  omega

/-- The border on the left has all the coordinates that are not positive. -/
theorem Axis.coord_minValue (h : Axis cellSize n) :
    (coord cellSize n Int32.minValue).toInt = 0 := by
  have hdiv : Int32.minValue.toInt.tdiv cellSize.toInt ≤ 0 :=
    (Int.tdiv_le_tdiv h.size (by decide)).trans_eq (Int.zero_tdiv _)
  rw [h.toInt_coord]
  omega

theorem Axis.coord_maxValue (h : Axis cellSize n) :
    (coord cellSize n Int32.maxValue).toInt = n.toInt - 1 := by
  have hpos := h.pos
  have hle := h.le
  have hmax : Int32.maxValue.toInt = 2 ^ 31 - 1 := rfl
  rw [h.toInt_coord, hmax]
  omega

/-- A corner does not run over, or comes to its border all the same. -/
def Spans (cellSize n x radius : Int32) : Prop :=
  (-2 ^ 31 ≤ x.toInt - radius.toInt ∨ coord cellSize n (x - radius) = 0) ∧
    (x.toInt + radius.toInt < 2 ^ 31 ∨ coord cellSize n (x + radius) = n - 1)

/-- The cells between the corners are those of the coordinates around, exactly when no corner
runs over to another cell. -/
theorem Axis.spans_iff (h : Axis cellSize n) {x radius : Int32} (hradius : 0 ≤ radius.toInt) :
    Spans cellSize n x radius ↔ ∀ ex : Int32, |ex.toInt - x.toInt| ≤ radius.toInt →
      (coord cellSize n (x - radius)).toInt ≤ (coord cellSize n ex).toInt ∧
        (coord cellSize n ex).toInt ≤ (coord cellSize n (x + radius)).toInt := by
  have hzero : (0 : Int32).toInt = 0 := rfl
  have hx := x.le_toInt
  have hx' := x.toInt_lt
  constructor
  · rintro ⟨hleft, hright⟩ ex hnear
    obtain ⟨hlow, hhigh⟩ := abs_le.mp hnear
    constructor
    · obtain hleft | hleft := hleft
      · have hsub : (x - radius).toInt = x.toInt - radius.toInt := by
          rw [Int32.toInt_sub]
          exact Int.bmod_eq_of_le (by omega) (by omega)
        exact h.coord_mono (by omega)
      · rw [hleft, hzero]
        exact h.coord_nonneg ex
    · obtain hright | hright := hright
      · have hadd : (x + radius).toInt = x.toInt + radius.toInt := by
          rw [Int32.toInt_add]
          exact Int.bmod_eq_of_le (by omega) (by omega)
        exact h.coord_mono (by omega)
      · rw [hright, h.toInt_sub_one]
        exact Int.le_sub_one_of_lt (h.coord_lt ex)
  · intro hall
    constructor
    · by_contra! hover
      have hmin : Int32.minValue.toInt = -2 ^ 31 := rfl
      have hfirst := (hall Int32.minValue (abs_le.mpr (by omega))).1
      rw [h.coord_minValue] at hfirst
      have hnonneg := h.coord_nonneg (x - radius)
      exact hover.2 (Int32.toInt_inj.mp (by omega))
    · by_contra! hover
      have hmax : Int32.maxValue.toInt = 2 ^ 31 - 1 := rfl
      have hlast := (hall Int32.maxValue (abs_le.mpr (by omega))).2
      rw [h.coord_maxValue] at hlast
      have hlt := h.coord_lt (x + radius)
      have hsub := h.toInt_sub_one
      exact hover.2 (Int32.toInt_inj.mp (by omega))

end Axis

/-! ## The cells -/

/-- The last one of the cell takes the place of the entity. -/
theorem swapAndPop_perm {cell : List EntityId} {entity : EntityId} (h : entity ∈ cell) :
    (swapAndPop cell entity).Perm (cell.erase entity) := by
  obtain ⟨cell, last, rfl⟩ : ∃ cell' last, cell = cell' ++ [last] :=
    (List.eq_nil_or_concat' cell).resolve_left (List.ne_nil_of_mem h)
  have hlt := List.idxOf_lt_length_of_mem h
  rw [swapAndPop, List.getLast?_concat]
  dsimp only
  rw [if_pos hlt]
  by_cases hmem : entity ∈ cell
  · have hidx := List.idxOf_lt_length_of_mem hmem
    rw [List.idxOf_append_of_mem hmem, List.set_append_left _ _ hidx, List.dropLast_concat,
      List.erase_append_left _ hmem, List.erase_eq_eraseIdx_of_idxOf rfl]
    exact (List.set_perm_cons_eraseIdx hidx last).trans (List.perm_append_singleton last _).symm
  · have hself : entity = last := by
      simpa [hmem] using h
    subst hself
    have hidx : (cell ++ [entity]).idxOf entity = cell.length := by
      rw [List.idxOf_append_of_notMem hmem, List.idxOf_cons_self, Nat.add_zero]
    rw [hidx, List.set_append_right _ _ le_rfl, Nat.sub_self, List.set_cons_zero,
      List.dropLast_concat, List.erase_append_right _ hmem, List.erase_cons_head, List.append_nil]

theorem count_swapAndPop (cell : List EntityId) (entity e : EntityId) :
    (swapAndPop cell entity).count e = cell.count e - if e = entity then 1 else 0 := by
  by_cases hmem : entity ∈ cell
  · rw [(swapAndPop_perm hmem).count_eq, List.count_erase]
    exact congrArg _ (if_congr (beq_iff_eq.trans eq_comm) rfl rfl)
  · have hlt : ¬cell.idxOf entity < cell.length := fun h => hmem (List.idxOf_lt_length_iff.mp h)
    have hsame : swapAndPop cell entity = cell := by
      unfold swapAndPop
      split
      · rfl
      · rw [if_neg hlt]
    rw [hsame]
    split_ifs with heq
    · rw [heq, List.count_eq_zero_of_not_mem hmem]
    · rfl

section Cells

variable (cells : ℕ → List EntityId) (index i : ℕ) (entity e : EntityId)

theorem count_put : (Function.update cells index (cells index ++ [entity]) i).count e =
    (cells i).count e + if i = index ∧ e = entity then 1 else 0 := by
  obtain rfl | hne := eq_or_ne i index
  · rw [Function.update_self, List.count_append, List.count_singleton]
    refine congrArg _ (if_congr ?_ rfl rfl)
    rw [beq_iff_eq, and_iff_right rfl, eq_comm]
  · rw [Function.update_of_ne hne, if_neg fun h => hne h.1, Nat.add_zero]

theorem count_take :
    (Function.update cells index (swapAndPop (cells index) entity) i).count e =
      (cells i).count e - if i = index ∧ e = entity then 1 else 0 := by
  obtain rfl | hne := eq_or_ne i index
  · rw [Function.update_self, count_swapAndPop]
    simp
  · rw [Function.update_of_ne hne, if_neg fun h => hne h.1, Nat.sub_zero]

end Cells

namespace GridRun

variable {s s' : GridRun} {worldWidth worldHeight cellSize : Int32}

/-- The grid has the cells it was made with, and the positions of its entities in them. -/
structure Tracked (worldWidth worldHeight cellSize : Int32) (s : GridRun) : Prop where
  axes : ∃ cells entityPositions, s.grid =
    { SpatialGrid.new worldWidth worldHeight cellSize with cells, entityPositions }
  ownCell : s.OwnCell
  stored : ∀ entity, s.grid.entityPositions entity =
    (s.positions entity).map fun p => (s.grid.cellCoordX p.1, s.grid.cellCoordY p.2)

/-- The cell of a position depends on the axes only. -/
theorem cellOf_with (g : SpatialGrid) (cells : ℕ → List EntityId)
    (entityPositions : EntityId → Option (Int32 × Int32)) (x y : Int32) :
    cellOf { g with cells, entityPositions } x y = cellOf g x y :=
  rfl

section

variable (h : Tracked worldWidth worldHeight cellSize s)
include h

/-- The cells and the positions change, and the axes stay. -/
theorem Tracked.update {cells : ℕ → List EntityId}
    {entityPositions positions : EntityId → Option (Int32 × Int32)}
    (hown : ∀ e i, (cells i).count e = match positions e with
      | some (x, y) => if i = cellOf s.grid x y then 1 else 0
      | none => 0)
    (hstored : ∀ e, entityPositions e =
      (positions e).map fun p => (s.grid.cellCoordX p.1, s.grid.cellCoordY p.2)) :
    Tracked worldWidth worldHeight cellSize
      { grid := { s.grid with cells, entityPositions }, positions } := by
  obtain ⟨cells', entityPositions', haxes⟩ := h.axes
  exact ⟨⟨cells, entityPositions, by rw [haxes]⟩, hown, hstored⟩

/-- The entity is put into a cell. -/
theorem Tracked.put {entity : EntityId}
    (hnone : s.positions entity = none) (x y : Int32) (e : EntityId) (i : ℕ) :
    (Function.update s.grid.cells (cellOf s.grid x y)
      (s.grid.cells (cellOf s.grid x y) ++ [entity]) i).count e =
      match Function.update s.positions entity (some (x, y)) e with
      | some (x, y) => if i = cellOf s.grid x y then 1 else 0
      | none => 0 := by
  rw [count_put, h.ownCell]
  obtain rfl | hne := eq_or_ne e entity
  · rw [hnone, Function.update_self]
    simp
  · rw [Function.update_of_ne hne, if_neg fun hi => hne hi.2, Nat.add_zero]

/-- The entity is taken out of its cell. -/
theorem Tracked.take {entity : EntityId}
    {x y : Int32} (hsome : s.positions entity = some (x, y)) (e : EntityId) (i : ℕ) :
    (Function.update s.grid.cells (cellOf s.grid x y)
      (swapAndPop (s.grid.cells (cellOf s.grid x y)) entity) i).count e =
      match Function.update s.positions entity none e with
      | some (x, y) => if i = cellOf s.grid x y then 1 else 0
      | none => 0 := by
  rw [count_take, h.ownCell]
  obtain rfl | hne := eq_or_ne e entity
  · rw [hsome, Function.update_self]
    simp
  · rw [Function.update_of_ne hne, if_neg fun hi => hne hi.2, Nat.sub_zero]

theorem Tracked.stored_update (entity : EntityId) (p : Option (Int32 × Int32)) (e : EntityId) :
    Function.update s.grid.entityPositions entity
        (p.map fun p => (s.grid.cellCoordX p.1, s.grid.cellCoordY p.2)) e =
      (Function.update s.positions entity p e).map
        fun p => (s.grid.cellCoordX p.1, s.grid.cellCoordY p.2) := by
  obtain rfl | hne := eq_or_ne e entity
  · rw [Function.update_self, Function.update_self]
  · rw [Function.update_of_ne hne, Function.update_of_ne hne, h.stored]

theorem Tracked.add {entity : EntityId} {x y : Int32} (hstep : s.step (.add entity x y) = some s') :
    Tracked worldWidth worldHeight cellSize s' := by
  rw [← Option.some.inj hstep]
  have hstored := h.stored entity
  unfold SpatialGrid.add
  cases hpos : s.positions entity with
  | some p =>
    rw [hpos] at hstored
    rw [hstored]
    exact h
  | none =>
    rw [hpos] at hstored
    rw [hstored]
    exact h.update (h.put hpos x y) (h.stored_update entity (some (x, y)))

theorem Tracked.remove {entity : EntityId}
    (hstep : s.step (.remove entity) = some s') : Tracked worldWidth worldHeight cellSize s' := by
  rw [← Option.some.inj hstep]
  have hstored := h.stored entity
  unfold SpatialGrid.remove
  cases hpos : s.positions entity with
  | some p =>
    rw [hpos] at hstored
    rw [hstored]
    exact h.update (h.take hpos) (h.stored_update entity none)
  | none =>
    rw [hpos] at hstored
    rw [hstored]
    have hsame : Function.update s.positions entity none = s.positions := by
      rw [← hpos, Function.update_eq_self]
    rw [hsame]
    exact h

theorem Tracked.move {entity : EntityId}
    {newX newY : Int32} (hstep : s.step (.move entity newX newY) = some s') :
    Tracked worldWidth worldHeight cellSize s' := by
  rw [← Option.some.inj hstep]
  have hstored := h.stored entity
  unfold SpatialGrid.move
  cases hpos : s.positions entity with
  | none =>
    rw [hpos] at hstored
    rw [hstored]
    exact h
  | some p =>
    rw [hpos] at hstored
    rw [hstored]
    have hpositions := h.stored_update entity (some (newX, newY))
    dsimp only [Option.map_some]
    split_ifs with hcell hsome hsome
    · refine h.update (fun e i => ?_) hpositions
      have hsameCell : cellOf s.grid newX newY = cellOf s.grid p.1 p.2 := by
        rw [cellOf, ← hcell.1, ← hcell.2, cellOf]
      rw [h.ownCell]
      obtain rfl | hne := eq_or_ne e entity
      · rw [hpos, Function.update_self]
        dsimp only
        rw [hsameCell]
      · rw [Function.update_of_ne hne]
    · exact absurd rfl hsome
    · have htaken := h.update (h.take hpos) (h.stored_update entity none)
      have hput := htaken.put (Function.update_self entity none s.positions) newX newY
      refine h.update ?_ hpositions
      simp only [cellOf_with, Function.update_idem] at hput
      exact hput
    · exact absurd rfl hsome

theorem Tracked.clear
    (hstep : s.step .clear = some s') : Tracked worldWidth worldHeight cellSize s' := by
  rw [← Option.some.inj hstep]
  exact h.update (fun _ _ => rfl) fun _ => rfl

end

theorem Reaches.tracked (h : Reaches worldWidth worldHeight cellSize s) :
    Tracked worldWidth worldHeight cellSize s := by
  refine h.invariant (P := Tracked worldWidth worldHeight cellSize) ?_ ?_
  · rintro s rfl
    exact ⟨⟨_, _, rfl⟩, fun _ _ => rfl, fun _ => rfl⟩
  · intro s op s' hs _ hstep
    cases op with
    | add entity x y => exact hs.add hstep
    | remove entity => exact hs.remove hstep
    | move entity newX newY => exact hs.move hstep
    | clear => exact hs.clear hstep

/-! ## Queries -/

variable {x y radius : Int32} {entity : EntityId}

/-- The cells between the corners. -/
def Between (cellSize n x radius : Int32) (cell : ℤ) : Prop :=
  (coord cellSize n (x - radius)).toInt ≤ cell ∧ cell ≤ (coord cellSize n (x + radius)).toInt

theorem Tracked.axisX (hsize : 0 < cellSize) (h : Tracked worldWidth worldHeight cellSize s) :
    Axis s.grid.cellSize s.grid.gridWidthCells := by
  obtain ⟨cells, entityPositions, haxes⟩ := h.axes
  rw [haxes]
  exact axis_new hsize _

theorem Tracked.axisY (hsize : 0 < cellSize) (h : Tracked worldWidth worldHeight cellSize s) :
    Axis s.grid.cellSize s.grid.gridHeightCells := by
  obtain ⟨cells, entityPositions, haxes⟩ := h.axes
  rw [haxes]
  exact axis_new hsize _

/-- The index of a cell tells its place. -/
theorem cellIndex_inj {g : SpatialGrid} {cx cy cx' cy' : ℤ}
    (hx : 0 ≤ cx ∧ cx < g.gridWidthCells.toInt) (hy : 0 ≤ cy)
    (hx' : 0 ≤ cx' ∧ cx' < g.gridWidthCells.toInt) (hy' : 0 ≤ cy')
    (h : g.cellIndex cx cy = g.cellIndex cx' cy') : cx = cx' ∧ cy = cy' := by
  have hlt : cx.toNat < g.gridWidthCells.toInt.toNat := by omega
  have hlt' : cx'.toNat < g.gridWidthCells.toInt.toNat := by omega
  unfold SpatialGrid.cellIndex at h
  have hmod := congrArg (· % g.gridWidthCells.toInt.toNat) h
  rw [Nat.mul_add_mod_of_lt hlt, Nat.mul_add_mod_of_lt hlt'] at hmod
  rw [hmod] at h
  have hmul := Nat.eq_of_mul_eq_mul_right (Nat.zero_lt_of_lt hlt) (Nat.add_right_cancel h)
  omega

theorem mem_range {n : Int32} {cell : ℤ} :
    cell ∈ Int.range (coord cellSize n (x - radius)).toInt
      ((coord cellSize n (x + radius)).toInt + 1) ↔ Between cellSize n x radius cell := by
  rw [Int.mem_range_iff, Int.lt_add_one_iff, Between]

theorem Between.bounds {n cell : ℤ} {n' : Int32} (hn : n'.toInt = n) (h : Axis cellSize n')
    (hb : Between cellSize n' x radius cell) : 0 ≤ cell ∧ cell < n := by
  have hlow := h.coord_nonneg (x - radius)
  have hhigh := h.coord_lt (x + radius)
  obtain ⟨hlo, hhi⟩ := hb
  omega

theorem OwnCell.mem_iff (h : s.OwnCell) {i : ℕ} : entity ∈ s.grid.cells i ↔
    ∃ ex ey, s.positions entity = some (ex, ey) ∧ i = cellOf s.grid ex ey := by
  rw [← List.count_pos_iff, h]
  cases s.positions entity with
  | none => simp
  | some p =>
    obtain ⟨ex, ey⟩ := p
    dsimp only
    split_ifs with hi
    · exact iff_of_true Nat.one_pos ⟨ex, ey, rfl, hi⟩
    · refine iff_of_false (Nat.lt_irrefl 0) ?_
      rintro ⟨ex', ey', hpos, rfl⟩
      obtain ⟨rfl, rfl⟩ := Prod.mk.inj (Option.some.inj hpos)
      exact hi rfl

/-- A query finds the entities whose cells are between the corners. -/
theorem Tracked.mem_query (hsize : 0 < cellSize) (h : Tracked worldWidth worldHeight cellSize s)
    (hradius : 0 ≤ radius) : entity ∈ s.grid.query x y radius ↔
      ∃ ex ey, s.positions entity = some (ex, ey) ∧
        Between s.grid.cellSize s.grid.gridWidthCells x radius (s.grid.cellCoordX ex).toInt ∧
        Between s.grid.cellSize s.grid.gridHeightCells y radius (s.grid.cellCoordY ey).toInt := by
  have hX := h.axisX hsize
  have hY := h.axisY hsize
  unfold SpatialGrid.query
  rw [if_neg (Int32.not_lt.mpr hradius)]
  simp only [List.mem_flatMap, Int.mem_range_iff, h.ownCell.mem_iff, Int.lt_add_one_iff]
  constructor
  · rintro ⟨cy, hy, cx, hx, ex, ey, hpos, hindex⟩
    obtain ⟨hcx, hcy⟩ := cellIndex_inj (Between.bounds rfl hX hx) (Between.bounds rfl hY hy).1
      ⟨hX.coord_nonneg ex, hX.coord_lt ex⟩ (hY.coord_nonneg ey) hindex
    subst hcx hcy
    exact ⟨ex, ey, hpos, hx, hy⟩
  · rintro ⟨ex, ey, hpos, hx, hy⟩
    exact ⟨_, hy, _, hx, ex, ey, hpos, rfl⟩

theorem nodup_range (m n : ℤ) : (Int.range m n).Nodup :=
  List.nodup_range.map fun i j hij => by
    have hij : m + (i : ℤ) = m + j := hij
    omega

/-- A query finds nobody twice. -/
theorem Tracked.nodup_query (hsize : 0 < cellSize) (h : Tracked worldWidth worldHeight cellSize s) :
    (s.grid.query x y radius).Nodup := by
  have hX := h.axisX hsize
  have hY := h.axisY hsize
  have hsame : ∀ {entity i j}, entity ∈ s.grid.cells i → entity ∈ s.grid.cells j → i = j := by
    intro entity i j hi hj
    obtain ⟨ex, ey, hpos, rfl⟩ := h.ownCell.mem_iff.mp hi
    obtain ⟨ex', ey', hpos', rfl⟩ := h.ownCell.mem_iff.mp hj
    obtain ⟨rfl, rfl⟩ := Prod.mk.inj (Option.some.inj (hpos.symm.trans hpos'))
    rfl
  have hcell : ∀ i, (s.grid.cells i).Nodup := by
    intro i
    rw [List.nodup_iff_count_le_one]
    intro entity
    rw [h.ownCell]
    split
    · split_ifs <;> decide
    · decide
  unfold SpatialGrid.query
  split_ifs
  · exact List.nodup_nil
  refine List.nodup_flatMap.mpr ⟨fun cy hy => List.nodup_flatMap.mpr ⟨fun cx _ => hcell _, ?_⟩, ?_⟩
  · refine (nodup_range _ _).pairwise_of_forall_ne fun cx hx cx' hx' hne entity hin hin' => hne ?_
    exact (cellIndex_inj ((mem_range.mp hx).bounds rfl hX) ((mem_range.mp hy).bounds rfl hY).1
      ((mem_range.mp hx').bounds rfl hX) ((mem_range.mp hy).bounds rfl hY).1 (hsame hin hin')).1
  · refine (nodup_range _ _).pairwise_of_forall_ne fun cy hy cy' hy' hne entity hin hin' => hne ?_
    obtain ⟨cx, hx, hin⟩ := List.mem_flatMap.mp hin
    obtain ⟨cx', hx', hin'⟩ := List.mem_flatMap.mp hin'
    exact (cellIndex_inj ((mem_range.mp hx).bounds rfl hX) ((mem_range.mp hy).bounds rfl hY).1
      ((mem_range.mp hx').bounds rfl hX) ((mem_range.mp hy').bounds rfl hY).1 (hsame hin hin')).2

theorem Covers.iff_spans {g : SpatialGrid} : Covers g x y radius ↔
    Spans g.cellSize g.gridWidthCells x radius ∧ Spans g.cellSize g.gridHeightCells y radius :=
  ⟨fun h => ⟨⟨h.left, h.right⟩, h.top, h.bottom⟩, fun h => ⟨h.1.1, h.1.2, h.2.1, h.2.2⟩⟩

/-- A grid with one entity. -/
theorem exists_single (worldWidth worldHeight cellSize ex ey : Int32) :
    ∃ s, Reaches worldWidth worldHeight cellSize s ∧ s.positions 1 = some (ex, ey) := by
  have hinit : Reaches worldWidth worldHeight cellSize
      { grid := .new worldWidth worldHeight cellSize } := .init rfl
  exact ⟨_, hinit.step (a := .add 1 ex ey) trivial rfl, rfl⟩

theorem near_self (x : Int32) {radius : Int32} (hr : 0 ≤ radius.toInt) :
    |x.toInt - x.toInt| ≤ radius.toInt := by
  rwa [Int.sub_self, abs_zero]

/-- A query of a grid finds whatever is around, exactly when its corners cover it. -/
theorem forall_finds_iff (hsize : 0 < cellSize) (hradius : 0 ≤ radius) :
    (∀ s, Reaches worldWidth worldHeight cellSize s → s.Finds x y radius) ↔
      Covers (.new worldWidth worldHeight cellSize) x y radius := by
  have hr : 0 ≤ radius.toInt := Int32.le_iff_toInt_le.mp hradius
  have hX : Axis cellSize (SpatialGrid.new worldWidth worldHeight cellSize).gridWidthCells :=
    axis_new hsize _
  have hY : Axis cellSize (SpatialGrid.new worldWidth worldHeight cellSize).gridHeightCells :=
    axis_new hsize _
  have hquery : ∀ {s entity}, Reaches worldWidth worldHeight cellSize s →
      (entity ∈ s.grid.query x y radius ↔ ∃ ex ey, s.positions entity = some (ex, ey) ∧
        Between cellSize (SpatialGrid.new worldWidth worldHeight cellSize).gridWidthCells x radius
          (coord cellSize
            (SpatialGrid.new worldWidth worldHeight cellSize).gridWidthCells ex).toInt ∧
        Between cellSize (SpatialGrid.new worldWidth worldHeight cellSize).gridHeightCells y radius
          (coord cellSize
            (SpatialGrid.new worldWidth worldHeight cellSize).gridHeightCells ey).toInt) := by
    intro s entity hs
    obtain ⟨cells, entityPositions, haxes⟩ := hs.tracked.axes
    have hmem : entity ∈ s.grid.query x y radius ↔ _ := hs.tracked.mem_query hsize hradius
    rw [haxes] at hmem ⊢
    exact hmem
  rw [Covers.iff_spans]
  constructor
  · intro hall
    refine ⟨(hX.spans_iff hr).mpr fun ex hnear => ?_, (hY.spans_iff hr).mpr fun ey hnear => ?_⟩
    · obtain ⟨s, hs, hpos⟩ := exists_single worldWidth worldHeight cellSize ex y
      obtain ⟨ex', ey', hpos', hbetween, -⟩ :=
        (hquery hs).mp ((hall s hs).near 1 ex y hpos hnear (near_self y hr))
      obtain ⟨rfl, -⟩ := Prod.mk.inj (Option.some.inj (hpos.symm.trans hpos'))
      exact hbetween
    · obtain ⟨s, hs, hpos⟩ := exists_single worldWidth worldHeight cellSize x ey
      obtain ⟨ex', ey', hpos', -, hbetween⟩ :=
        (hquery hs).mp ((hall s hs).near 1 x ey hpos (near_self x hr) hnear)
      obtain ⟨-, rfl⟩ := Prod.mk.inj (Option.some.inj (hpos.symm.trans hpos'))
      exact hbetween
  · rintro ⟨hx, hy⟩ s hs
    refine ⟨List.nodup_iff_count_le_one.mp (hs.tracked.nodup_query hsize),
      fun entity ex ey hpos hnearX hnearY => (hquery hs).mpr ⟨ex, ey, hpos, ?_, ?_⟩⟩
    · exact (hX.spans_iff hr).mp hx ex hnearX
    · exact (hY.spans_iff hr).mp hy ey hnearY

/-- Every entity is in its own cell, and the queries that find the entities around are those
whose corners cover them. -/
theorem grid_iff (worldWidth worldHeight cellSize : Int32) (hsize : 0 < cellSize) :
    (∀ s, Reaches worldWidth worldHeight cellSize s → s.OwnCell) ∧
      ∀ x y radius, 0 ≤ radius →
        ((∀ s, Reaches worldWidth worldHeight cellSize s → s.Finds x y radius) ↔
          Covers (.new worldWidth worldHeight cellSize) x y radius) :=
  ⟨fun _ hs => hs.tracked.ownCell, fun _ _ _ hradius => forall_finds_iff hsize hradius⟩

/-- An entity near the middle of a world. -/
theorem grid_iff_middle : ∃ s : GridRun, s.positions 1 = some (450, 550) ∧ s.OwnCell ∧
    s.Finds 500 500 200 := by
  obtain ⟨s, hs, hpos⟩ := exists_single 1000 1000 100 450 550
  obtain ⟨hown, hfinds⟩ := grid_iff 1000 1000 100 (by decide)
  refine ⟨s, hpos, hown s hs, (hfinds 500 500 200 (by decide)).mpr ⟨?_, ?_, ?_, ?_⟩ s hs⟩
  all_goals exact .inl (by decide)

/-- The corner on the right of the last coordinate runs over to the first cell. -/
theorem not_finds : ¬∀ s, Reaches 1000 1000 100 s → ∀ x y radius, 0 ≤ radius →
    s.Finds x y radius := by
  intro hall
  have hcovers : Covers (.new 1000 1000 100) 2147483647 500 1 :=
    (forall_finds_iff (by decide) (by decide)).mp fun s hs => hall s hs _ _ _ (by decide)
  obtain hright | hright := hcovers.right
  · exact absurd hright (by decide)
  · exact absurd hright (by decide)

end GridRun

end BoostGateway.Aoi
