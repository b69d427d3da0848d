import Mathlib.Data.Multiset.AddSub
import BoostGateway.Battle.World

/-!
# What participants see

`AoiSystem` (`aoi_system.cpp`) writes for every participant online the entities in the cells
of a grid around it (`SpatialGrid`). A `ViewedWorld` is a battle world with these views and
with the positions of the projectiles that `BattleLifecycleSystem` has removed : it removes
the projectile and leaves its position behind.

The entities of the positions are visited in the order of a hash map, which depends on
nothing but what is in it, as entities are only added, in the order of their ids.
-/

namespace BoostGateway.Battle

/-! ## The grid -/

/-- `SpatialGrid`, with the cell of every entity. -/
structure SpatialGrid where
  cellSize : ℤ
  gridWidthCells : ℤ
  gridHeightCells : ℤ
  cells : ℤ → List ℕ := fun _ => []
  entityPositions : ℕ → Option (ℤ × ℤ) := fun _ => none

namespace SpatialGrid

def new (worldWidth worldHeight cellSize : ℤ) : SpatialGrid where
  cellSize := cellSize
  gridWidthCells := max 1 ((worldWidth + cellSize - 1).tdiv cellSize)
  gridHeightCells := max 1 ((worldHeight + cellSize - 1).tdiv cellSize)

def cellCoordX (g : SpatialGrid) (x : ℤ) : ℤ := max 0 (min (g.gridWidthCells - 1) (x.tdiv g.cellSize))

def cellCoordY (g : SpatialGrid) (y : ℤ) : ℤ := max 0 (min (g.gridHeightCells - 1) (y.tdiv g.cellSize))

def cellIndex (g : SpatialGrid) (cx cy : ℤ) : ℤ := cy * g.gridWidthCells + cx

/-- An entity that is in the grid is not added again. -/
def add (g : SpatialGrid) (entity : ℕ) (x y : ℤ) : SpatialGrid :=
  if (g.entityPositions entity).isSome then g
  else
    let cx := g.cellCoordX x
    let cy := g.cellCoordY y
    let index := g.cellIndex cx cy
    { g with
      cells := Function.update g.cells index (g.cells index ++ [entity])
      entityPositions := Function.update g.entityPositions entity (some (cx, cy)) }

/-- The entities are added one after the other. -/
def fill (g : SpatialGrid) (entities : List (ℕ × PositionComponent)) : SpatialGrid :=
  entities.foldl (fun g e => g.add e.1 e.2.x e.2.y) g

/-- The numbers of a loop from `first` to `last`. -/
def upTo (start last : ℤ) : List ℤ :=
  (List.range (last + 1 - start).toNat).map fun (i : ℕ) => start + i

/-- The entities of the cells within a radius, row by row. -/
def query (g : SpatialGrid) (x y radius : ℤ) : List ℕ :=
  if radius < 0 then []
  else
    (upTo (g.cellCoordY (y - radius)) (g.cellCoordY (y + radius))).flatMap fun cy =>
      (upTo (g.cellCoordX (x - radius)) (g.cellCoordX (x + radius))).flatMap fun cx =>
        g.cells (g.cellIndex cx cy)

theorem mem_upTo {start last i : ℤ} : i ∈ upTo start last ↔ start ≤ i ∧ i ≤ last := by
  unfold upTo
  rw [List.mem_map]
  constructor
  · rintro ⟨n, hn, rfl⟩
    rw [List.mem_range] at hn
    omega
  · rintro ⟨hstart, hlast⟩
    refine ⟨(i - start).toNat, ?_, by omega⟩
    rw [List.mem_range]
    omega

variable {g : SpatialGrid} {entity : ℕ}

theorem exists_cell_of_mem_query {x y radius : ℤ} (h : entity ∈ g.query x y radius) :
    ∃ i, entity ∈ g.cells i := by
  unfold query at h
  split_ifs at h
  · cases h
  · obtain ⟨cy, -, h⟩ := List.mem_flatMap.mp h
    obtain ⟨cx, -, h⟩ := List.mem_flatMap.mp h
    exact ⟨_, h⟩

/-- The query looks into the cell of its own place. -/
theorem mem_query_of_mem_cell {x y radius : ℤ} (hcell : 0 < g.cellSize) (hradius : 0 ≤ radius)
    (h : entity ∈ g.cells (g.cellIndex (g.cellCoordX x) (g.cellCoordY y))) :
    entity ∈ g.query x y radius := by
  have hmono : ∀ {a b n : ℤ}, a ≤ b →
      max 0 (min n (a.tdiv g.cellSize)) ≤ max 0 (min n (b.tdiv g.cellSize)) := fun hab =>
    max_le_max_left 0 (min_le_min_left _ (Int.tdiv_le_tdiv hcell hab))
  rw [query, if_neg (not_lt.mpr hradius), List.mem_flatMap]
  refine ⟨g.cellCoordY y, mem_upTo.mpr ⟨hmono (by omega), hmono (by omega)⟩, ?_⟩
  rw [List.mem_flatMap]
  exact ⟨g.cellCoordX x, mem_upTo.mpr ⟨hmono (by omega), hmono (by omega)⟩, h⟩

theorem add_eq (g : SpatialGrid) (entity : ℕ) (x y : ℤ) : ∃ cells entityPositions,
    g.add entity x y = { g with cells, entityPositions } := by
  unfold add
  split_ifs
  · exact ⟨g.cells, g.entityPositions, rfl⟩
  · exact ⟨_, _, rfl⟩

theorem fill_eq (g : SpatialGrid) (entities : List (ℕ × PositionComponent)) :
    ∃ cells entityPositions, g.fill entities = { g with cells, entityPositions } := by
  induction entities generalizing g with
  | nil => exact ⟨g.cells, g.entityPositions, rfl⟩
  | cons e entities ih =>
    obtain ⟨cells, entityPositions, hadd⟩ := g.add_eq e.1 e.2.x e.2.y
    obtain ⟨cells', entityPositions', hfill⟩ := ih (g.add e.1 e.2.x e.2.y)
    refine ⟨cells', entityPositions', hfill.trans ?_⟩
    rw [hadd]

theorem mem_cells_add {entity' : ℕ} {x y i : ℤ} :
    entity ∈ (g.add entity' x y).cells i ↔ entity ∈ g.cells i ∨
      g.entityPositions entity' = none ∧ entity = entity' ∧
        i = g.cellIndex (g.cellCoordX x) (g.cellCoordY y) := by
  unfold add
  cases hknown : g.entityPositions entity' with
  | some cell => simp
  | none =>
    rw [Option.isSome_none, if_neg Bool.false_ne_true]
    dsimp only
    by_cases hi : i = g.cellIndex (g.cellCoordX x) (g.cellCoordY y)
    · simp [hi]
    · simp [hi]

variable {entities : List (ℕ × PositionComponent)}

/-- What is in a cell was there, or was added. -/
theorem of_mem_cells_fill {i : ℤ} (h : entity ∈ (g.fill entities).cells i) :
    entity ∈ g.cells i ∨ ∃ pos, (entity, pos) ∈ entities := by
  induction entities generalizing g with
  | nil => exact .inl h
  | cons e entities ih =>
    rcases ih h with hadd | ⟨pos, hpos⟩
    · rcases mem_cells_add.mp hadd with hold | ⟨-, rfl, -⟩
      · exact .inl hold
      · exact .inr ⟨e.2, List.mem_cons_self⟩
    · exact .inr ⟨pos, List.mem_cons_of_mem _ hpos⟩

theorem mem_cells_fill_of_mem {i : ℤ}
    (h : entity ∈ g.cells i) : entity ∈ (g.fill entities).cells i := by
  induction entities generalizing g with
  | nil => exact h
  | cons e entities ih => exact ih (mem_cells_add.mpr (.inl h))

/-- An entity that is added is in the cell of its place. -/
theorem mem_cells_fill {pos : PositionComponent}
    (hnew : g.entityPositions entity = none) (h : (entity, pos) ∈ entities)
    (hone : ∀ pos', (entity, pos') ∈ entities → pos' = pos) : entity ∈
      (g.fill entities).cells (g.cellIndex (g.cellCoordX pos.x) (g.cellCoordY pos.y)) := by
  induction entities generalizing g with
  | nil => cases h
  | cons e entities ih =>
    by_cases he : e.1 = entity
    · obtain rfl : e.2 = pos := hone e.2 (he ▸ List.mem_cons_self)
      have hadded : entity ∈ (g.add e.1 e.2.x e.2.y).cells
          (g.cellIndex (g.cellCoordX e.2.x) (g.cellCoordY e.2.y)) :=
        mem_cells_add.mpr (.inr ⟨he ▸ hnew, he.symm, rfl⟩)
      change entity ∈ ((g.add e.1 e.2.x e.2.y).fill entities).cells _
      exact mem_cells_fill_of_mem hadded
    · have hmem : (entity, pos) ∈ entities := by
        rcases List.mem_cons.mp h with rfl | hmem
        · exact absurd rfl he
        · exact hmem
      have hnew' : (g.add e.1 e.2.x e.2.y).entityPositions entity = none := by
        unfold add
        split_ifs
        · exact hnew
        · exact (Function.update_of_ne (Ne.symm he) _ _).trans hnew
      have hrest := ih hnew' hmem fun pos' h' => hone pos' (List.mem_cons_of_mem _ h')
      obtain ⟨cells, entityPositions, hadd⟩ := g.add_eq e.1 e.2.x e.2.y
      rw [hadd] at hrest
      rw [fill, List.foldl_cons, hadd]
      exact hrest

end SpatialGrid

/-! ## Views -/

/-- What a player sees. -/
structure AoiViewComponent where
  visibleEntities : List ℕ := []
  visibleCount : UInt32 := 0

/-- The entities with a position, with the id of each. -/
abbrev Positions := Multiset (ℕ × PositionComponent)

/-- A world with the views of its players. -/
structure ViewedWorld where
  world : BattleWorld
  /-- The positions of removed projectiles. -/
  strays : List (ℕ × PositionComponent) := []
  views : ℕ → Option AoiViewComponent := fun _ => none
  /-- The order in which the positions are visited. -/
  visit : Positions → List (ℕ × PositionComponent)
  visit_eq : ∀ positions, (visit positions : Positions) = positions

namespace ViewedWorld

def kAoiCellSize : ℤ := 100
def kAoiViewRadius : ℤ := 100

/-- The entities with a `PositionComponent`. -/
def positions (v : ViewedWorld) : Positions :=
  (v.world.participants.map fun e => (e.id, e.position) : List _) +
    (v.world.projectiles.map fun q => (q.id, q.position) : List _) + (v.strays : Positions)

/-- The grid that `AoiSystem::run` fills. -/
def grid (v : ViewedWorld) : SpatialGrid :=
  (SpatialGrid.new kMaxX kMaxY kAoiCellSize).fill (v.visit v.positions)

/-- What a participant finds in the grid. -/
def viewOf (grid : SpatialGrid) (e : ParticipantEntity) : AoiViewComponent :=
  let visible := grid.query e.position.x e.position.y kAoiViewRadius
  { visibleEntities := visible, visibleCount := UInt32.ofNat visible.length }

def writeView (grid : SpatialGrid) (views : ℕ → Option AoiViewComponent) (e : ParticipantEntity) :
    ℕ → Option AoiViewComponent :=
  if e.participant.online then Function.update views e.id (some (viewOf grid e)) else views

/-- `AoiSystem::run`. -/
def runAoi (v : ViewedWorld) : ViewedWorld :=
  { v with views := v.world.participants.foldl (writeView v.grid) v.views }

variable {v v' : ViewedWorld} {e : ParticipantEntity}

theorem mem_visit {a : ℕ × PositionComponent} : a ∈ v.visit v.positions ↔ a ∈ v.positions := by
  rw [← Multiset.mem_coe, v.visit_eq]

/-- Who is seen has a position. -/
theorem exists_position_of_visible {id : ℕ} (h : id ∈ (viewOf v.grid e).visibleEntities) :
    ∃ pos, (id, pos) ∈ v.positions := by
  change id ∈ v.grid.query e.position.x e.position.y kAoiViewRadius at h
  obtain ⟨i, hcell⟩ := SpatialGrid.exists_cell_of_mem_query h
  rcases SpatialGrid.of_mem_cells_fill hcell with hnew | ⟨pos, hpos⟩
  · cases hnew
  · exact ⟨pos, mem_visit.mp hpos⟩

/-- A participant sees who is where it is. -/
theorem visible_of_position {id : ℕ} (h : (id, e.position) ∈ v.positions)
    (hone : ∀ pos, (id, pos) ∈ v.positions → pos = e.position) :
    id ∈ (viewOf v.grid e).visibleEntities := by
  obtain ⟨cells, entityPositions, hfill⟩ := SpatialGrid.fill_eq
    (.new kMaxX kMaxY kAoiCellSize) (v.visit v.positions)
  have hcell := SpatialGrid.mem_cells_fill (g := .new kMaxX kMaxY kAoiCellSize) rfl
    (mem_visit.mpr h) fun pos hpos => hone pos (mem_visit.mp hpos)
  change id ∈ v.grid.query e.position.x e.position.y kAoiViewRadius
  rw [grid]
  rw [hfill] at hcell ⊢
  refine SpatialGrid.mem_query_of_mem_cell ?_ (by decide) hcell
  exact (by decide : (0 : ℤ) < 100)

variable (grid : SpatialGrid) (views : ℕ → Option AoiViewComponent) {es : List ParticipantEntity}

theorem foldl_writeView_of_notMem {id : ℕ} (h : id ∉ es.map (·.id)) :
    es.foldl (writeView grid) views id = views id := by
  induction es generalizing views with
  | nil => rfl
  | cons e es ih =>
    rw [List.map_cons, List.mem_cons, not_or] at h
    rw [List.foldl_cons, ih _ h.2, writeView]
    split_ifs
    · exact Function.update_of_ne h.1 _ _
    · rfl

theorem foldl_writeView (hids : (es.map (·.id)).Nodup) (he : e ∈ es)
    (honline : e.participant.online) :
    es.foldl (writeView grid) views e.id = some (viewOf grid e) := by
  induction es generalizing views with
  | nil => cases he
  | cons e' es ih =>
    rw [List.map_cons, List.nodup_cons] at hids
    rw [List.foldl_cons]
    rcases List.mem_cons.mp he with rfl | hmem
    · rw [foldl_writeView_of_notMem _ _ hids.1, writeView, if_pos honline, Function.update_self]
    · exact ih _ hids.2 hmem

/-- The view of a participant online. -/
theorem online_view (hids : (v.world.participants.map (·.id)).Nodup)
    (he : e ∈ v.world.participants) (honline : e.participant.online) :
    v.runAoi.views e.id = some (viewOf v.grid e) :=
  foldl_writeView v.grid v.views hids he honline

/-- What `AoiSystem` reads of a participant. -/
def outline (e : ParticipantEntity) : ℕ × Bool × PositionComponent :=
  (e.id, e.participant.online, e.position)

theorem foldl_writeView_congr {es' : List ParticipantEntity} (h : es'.map outline = es.map outline) :
    es'.foldl (writeView grid) views = es.foldl (writeView grid) views := by
  induction es generalizing es' views with
  | nil =>
    obtain rfl := List.map_eq_nil_iff.mp h
    rfl
  | cons e es ih =>
    obtain ⟨e', es', rfl, he, hes⟩ := List.map_eq_cons_iff.mp h
    obtain ⟨hid, honline, hposition⟩ : e'.id = e.id ∧
        e'.participant.online = e.participant.online ∧ e'.position = e.position := by
      simpa [outline] using he
    have hwrite : writeView grid views e' = writeView grid views e := by
      rw [writeView, viewOf, honline, hid, hposition, writeView, viewOf]
    rw [List.foldl_cons, List.foldl_cons, hwrite]
    exact ih _ hes

/-- The views come from the positions and the outlines of the participants. -/
theorem views_runAoi_congr (hvisit : v'.visit = v.visit) (hviews : v'.views = v.views)
    (hpositions : v'.positions = v.positions)
    (houtline : v'.world.participants.map outline = v.world.participants.map outline) :
    v'.runAoi.views = v.runAoi.views := by
  have hgrid : v'.grid = v.grid := by rw [grid, hvisit, hpositions, grid]
  unfold runAoi
  dsimp only
  rw [hgrid, hviews]
  exact foldl_writeView_congr v.grid v.views houtline

end ViewedWorld

end BoostGateway.Battle
