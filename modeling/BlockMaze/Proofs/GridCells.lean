-- The cells of a grid. Asking a cell for its tile and asking a tile for its
-- cells give the same answers, and only cells of the grid hold a tile. The
-- cells with a tile are listed row by row, and every cell of the grid is in
-- one of these lists.
import BlockMaze.Level.Basic
import Mathlib.Algebra.BigOperators.Group.List.Basic
import Mathlib.Algebra.Ring.Nat

namespace BlockMaze

/-- The tiles that a grid may hold. -/
def Tile.ofGrids : List Tile := [.empty, .wall, .start, .flag, .star, .hole, .key, .door]

/-- The cell comes before another one when cells are read row by row. -/
def Cell.ComesBefore (c d : Cell) : Prop := c.y < d.y ∨ c.y = d.y ∧ c.x < d.x

theorem Cell.ComesBefore.ne {c d : Cell} (h : c.ComesBefore d) : c ≠ d := by
  rintro rfl
  rcases h with h | h
  · exact Int.lt_irrefl _ h
  · exact Int.lt_irrefl _ h.2

theorem zipIdx_map_range (f : Nat → α) (n : Nat) :
    ((List.range n).map f).zipIdx = (List.range n).map fun i => (f i, i) := by
  apply List.ext_getElem
  · simp
  · intro i hi hi'
    simp

namespace Grid

/-- The cell lies in the grid. -/
def Holds (g : Grid) (c : Cell) : Prop := 0 ≤ c.x ∧ c.x < g.width ∧ 0 ≤ c.y ∧ c.y < g.height

instance (g : Grid) (c : Cell) : Decidable (g.Holds c) := inferInstanceAs (Decidable (_ ∧ _))

/-- The tile stands in a row of the grid, at a column and a row number. -/
def StandsAt (g : Grid) (tile : Tile) (x y : Nat) : Prop :=
  ∃ row, g.rows[y]? = some row ∧ row[x]? = some tile

theorem holds_of_standsAt {g : Grid} {tile : Tile} {x y : Nat} (h : g.StandsAt tile x y) :
    g.Holds ⟨x, y⟩ := by
  obtain ⟨row, hrow, htile⟩ := h
  obtain ⟨hy, -⟩ := List.getElem?_eq_some_iff.1 hrow
  obtain ⟨hx, -⟩ := List.getElem?_eq_some_iff.1 htile
  rw [g.row_length row (List.mem_of_getElem? hrow)] at hx
  unfold Holds height
  simp only
  omega

theorem tileAt_of_standsAt {g : Grid} {tile : Tile} {x y : Nat} (h : g.StandsAt tile x y) :
    g.tileAt ⟨x, y⟩ = tile := by
  obtain ⟨row, hrow, htile⟩ := h
  unfold tileAt
  simp [hrow, htile]

/-- A tile that is not the outside stands in the grid. -/
theorem standsAt_of_tileAt {g : Grid} {c : Cell} (h : g.tileAt c ≠ .outside) :
    ∃ x y : Nat, c = ⟨x, y⟩ ∧ g.StandsAt (g.tileAt c) x y := by
  obtain ⟨x, y⟩ := c
  unfold tileAt at h
  split at h
  · rename_i hpos
    simp only at hpos h
    refine ⟨x.toNat, y.toNat, ?_, ?_⟩
    · rw [Int.toNat_of_nonneg hpos.1, Int.toNat_of_nonneg hpos.2]
    · cases hrow : g.rows[y.toNat]? with
      | none => simp [hrow] at h
      | some row =>
        cases htile : row[x.toNat]? with
        | none => simp [hrow, htile] at h
        | some tile =>
          refine ⟨row, hrow, ?_⟩
          unfold tileAt
          simp [hpos, hrow, htile]
  · exact absurd rfl h

theorem mem_cellsOf {g : Grid} {tile : Tile} {c : Cell} :
    c ∈ g.cellsOf tile ↔ ∃ x y : Nat, c = ⟨x, y⟩ ∧ g.StandsAt tile x y := by
  unfold cellsOf StandsAt
  simp only [List.mem_flatMap, List.mem_filterMap, Prod.exists, List.mem_zipIdx_iff_getElem?,
    Option.ite_none_right_eq_some, Option.some.injEq]
  constructor
  · rintro ⟨row, y, hrow, t, x, htile, rfl, rfl⟩
    exact ⟨x, y, rfl, row, hrow, htile⟩
  · rintro ⟨x, y, rfl, row, hrow, htile⟩
    exact ⟨row, y, hrow, tile, x, htile, rfl, rfl⟩

theorem ne_outside_of_standsAt {g : Grid} {tile : Tile} {x y : Nat} (h : g.StandsAt tile x y) :
    tile ≠ .outside := by
  obtain ⟨row, hrow, htile⟩ := h
  exact g.inside row (List.mem_of_getElem? hrow) tile (List.mem_of_getElem? htile)

theorem standsAt_of_holds {g : Grid} {c : Cell} (h : g.Holds c) :
    ∃ tile, ∃ x y : Nat, c = ⟨x, y⟩ ∧ g.StandsAt tile x y := by
  obtain ⟨x, y⟩ := c
  unfold Holds height at h
  simp only at h
  have hy : y.toNat < g.rows.length := by omega
  have hrow : g.rows[y.toNat].length = g.width := g.row_length _ (List.getElem_mem hy)
  have hx : x.toNat < g.rows[y.toNat].length := by omega
  refine ⟨g.rows[y.toNat][x.toNat], x.toNat, y.toNat, ?_, g.rows[y.toNat], ?_, ?_⟩
  · rw [Int.toNat_of_nonneg h.1, Int.toNat_of_nonneg h.2.2.1]
  · exact List.getElem?_eq_getElem hy
  · exact List.getElem?_eq_getElem hx

/-- The outside begins where the grid ends. -/
theorem tileAt_eq_outside {g : Grid} {c : Cell} : g.tileAt c = .outside ↔ ¬ g.Holds c := by
  constructor
  · intro h hin
    obtain ⟨tile, x, y, rfl, hs⟩ := standsAt_of_holds hin
    rw [tileAt_of_standsAt hs] at h
    exact ne_outside_of_standsAt hs h
  · intro h
    apply Decidable.byContradiction
    intro hne
    obtain ⟨x, y, rfl, hs⟩ := standsAt_of_tileAt hne
    exact h (holds_of_standsAt hs)

/-! ## Row by row -/

/-- The cells of a grid in the order of a picture, row by row. -/
def cells (g : Grid) : List Cell :=
  (List.range g.height).flatMap fun y : Nat => (List.range g.width).map fun x : Nat => ⟨x, y⟩

theorem mem_cells {g : Grid} {c : Cell} : c ∈ g.cells ↔ g.Holds c := by
  obtain ⟨x, y⟩ := c
  unfold cells Holds
  simp only [List.mem_flatMap, List.mem_map, List.mem_range, Cell.mk.injEq]
  constructor
  · rintro ⟨j, hj, i, hi, rfl, rfl⟩
    omega
  · intro h
    exact ⟨y.toNat, by omega, x.toNat, by omega, by omega, by omega⟩

theorem length_cells (g : Grid) : g.cells.length = g.height * g.width := by
  unfold cells
  simp only [List.length_flatMap, List.length_map, List.length_range, List.map_const',
    List.sum_replicate_nat]

theorem ascending_cells (g : Grid) : g.cells.Pairwise Cell.ComesBefore := by
  unfold cells
  rw [List.pairwise_flatMap]
  constructor
  · -- within a row the columns ascend
    intro y _
    rw [List.pairwise_map]
    refine List.pairwise_lt_range.imp ?_
    intro i j h
    exact Or.inr ⟨rfl, by simpa using h⟩
  · refine List.pairwise_lt_range.imp ?_
    intro y z h c hc d hd
    obtain ⟨i, -, rfl⟩ := List.mem_map.1 hc
    obtain ⟨j, -, rfl⟩ := List.mem_map.1 hd
    exact Or.inl (by simpa using h)

theorem nodup_cells (g : Grid) : g.cells.Nodup := g.ascending_cells.imp Cell.ComesBefore.ne

/-- The rows of a grid hold its tiles. -/
theorem zipIdx_rows (g : Grid) :
    g.rows.zipIdx =
      (List.range g.height).map fun y : Nat =>
        ((List.range g.width).map fun x : Nat => g.tileAt ⟨x, y⟩, y) := by
  apply List.ext_getElem
  · simp [height]
  · intro y hy hy'
    have hin : y < g.rows.length := by simpa using hy
    have hlength := g.row_length _ (List.getElem_mem hin)
    simp only [List.getElem_zipIdx, List.getElem_map, List.getElem_range, Nat.zero_add,
      Prod.mk.injEq, and_true]
    apply List.ext_getElem
    · simpa using hlength
    · intro x hx hx'
      simp [tileAt, hin, hx]

theorem cellsOf_eq_filter (g : Grid) (tile : Tile) :
    g.cellsOf tile = g.cells.filter fun c => g.tileAt c = tile := by
  unfold cellsOf cells
  rw [zipIdx_rows, List.flatMap_map, List.filter_flatMap]
  congr 1
  funext y
  simp only [zipIdx_map_range, List.filterMap_map, List.filter_map, ← List.filterMap_eq_filter,
    List.map_filterMap]
  congr 1
  funext x
  by_cases h : g.tileAt ⟨x, y⟩ = tile
  · simp [Option.guard, h]
  · simp [Option.guard, h]

/-- Every cell of a grid is listed once, for one of the tiles. -/
theorem sum_length_cellsOf (g : Grid) :
    (Tile.ofGrids.map fun tile => (g.cellsOf tile).length).sum = g.height * g.width := by
  have hcells : ∀ c ∈ g.cells, g.tileAt c ≠ .outside := by
    intro c hc ho
    exact tileAt_eq_outside.1 ho (mem_cells.1 hc)
  simp only [cellsOf_eq_filter, ← List.countP_eq_length_filter]
  rw [← length_cells]
  generalize g.cells = cells at hcells
  induction cells with
  | nil => rfl
  | cons c cells ih =>
    obtain ⟨hc, hrest⟩ := List.forall_mem_cons.1 hcells
    -- the cell counts for its own tile and for no other
    have hone : (Tile.ofGrids.map fun tile => if g.tileAt c = tile then 1 else 0).sum = 1 := by
      cases ht : g.tileAt c with
      | outside => exact absurd ht hc
      | _ => rfl
    simp only [List.countP_cons, decide_eq_true_eq, List.sum_map_add]
    rw [ih hrest, hone, List.length_cons]

end Grid

namespace Level

/-- A cell is listed for a tile if and only if it holds the tile. -/
theorem mem_cellsOf {level : Level} {tile : Tile} {c : Cell} (ht : tile ≠ .outside) :
    c ∈ level.cellsOf tile ↔ level.tileAt c = tile := by
  unfold cellsOf tileAt
  rw [Grid.mem_cellsOf]
  constructor
  · rintro ⟨x, y, rfl, h⟩
    exact Grid.tileAt_of_standsAt h
  · intro h
    have hne : level.grid.tileAt c ≠ .outside := by rw [h]; exact ht
    rw [← h]
    exact Grid.standsAt_of_tileAt hne

theorem holds_of_tileAt {level : Level} {c : Cell} (h : level.tileAt c ≠ .outside) :
    level.grid.Holds c := by
  obtain ⟨x, y, rfl, hs⟩ := Grid.standsAt_of_tileAt h
  exact Grid.holds_of_standsAt hs

/-- The runner is stopped by walls and by what lies around the grid. -/
theorem isWallLike_iff {level : Level} {c : Cell} :
    (level.tileAt c).isWallLike = true ↔ level.tileAt c = .wall ∨ ¬ level.grid.Holds c := by
  rw [← Grid.tileAt_eq_outside]
  unfold tileAt
  cases level.grid.tileAt c <;> simp [Tile.isWallLike]

theorem free_iff {level : Level} {c : Cell} :
    (level.tileAt c).isWallLike = false ↔ level.grid.Holds c ∧ level.tileAt c ≠ .wall := by
  rw [← Bool.not_eq_true, isWallLike_iff, not_or, Classical.not_not]
  exact And.comm

theorem ascending_cellsOf (level : Level) (tile : Tile) :
    (level.cellsOf tile).Pairwise Cell.ComesBefore := by
  unfold cellsOf
  rw [Grid.cellsOf_eq_filter]
  exact level.grid.ascending_cells.filter _

theorem nodup_cellsOf (level : Level) (tile : Tile) : (level.cellsOf tile).Nodup :=
  (level.ascending_cellsOf tile).imp Cell.ComesBefore.ne

theorem cellsOf_outside (level : Level) : level.cellsOf .outside = [] := by
  rw [List.eq_nil_iff_forall_not_mem]
  intro c hc
  obtain ⟨x, y, rfl, hs⟩ := Grid.mem_cellsOf.1 hc
  exact Grid.ne_outside_of_standsAt hs rfl

/-- A cell that no list has lies outside. -/
theorem tileAt_eq_outside {level : Level} {c : Cell} :
    level.tileAt c = .outside ↔ ∀ tile, c ∉ level.cellsOf tile := by
  constructor
  · intro h tile hc
    by_cases ht : tile = .outside
    · rw [ht, cellsOf_outside] at hc
      exact List.not_mem_nil hc
    · exact ht (((mem_cellsOf ht).1 hc).symm.trans h)
  · intro h
    apply Decidable.byContradiction
    intro hne
    exact h _ ((mem_cellsOf hne).2 rfl)

/-- Asking a cell for its tile and asking a tile for its cells give the same answers. A cell of the
plane is listed for a tile of grids if and only if it holds the tile; the list goes row by row and
has no cell twice; nothing is listed for the outside, which begins where the grid ends and is what
all cells hold that are in no list; and the lists have together as many cells as the grid. -/
theorem tiles_and_cells_give_the_same_answers (level : Level) :
    (∀ tile, tile ≠ .outside → ∀ c, c ∈ level.cellsOf tile ↔ level.tileAt c = tile) ∧
      (∀ tile, (level.cellsOf tile).Nodup ∧ (level.cellsOf tile).Pairwise Cell.ComesBefore) ∧
      level.cellsOf .outside = [] ∧
      (∀ c, level.tileAt c = .outside ↔ ∀ tile, c ∉ level.cellsOf tile) ∧
      (∀ c, level.tileAt c = .outside ↔ ¬ level.grid.Holds c) ∧
      (Tile.ofGrids.map fun tile => (level.cellsOf tile).length).sum =
        level.grid.height * level.grid.width := by
  refine ⟨?_, ?_, level.cellsOf_outside, ?_, ?_, level.grid.sum_length_cellsOf⟩
  · intro tile ht c
    exact mem_cellsOf ht
  · intro tile
    exact ⟨level.nodup_cellsOf tile, level.ascending_cellsOf tile⟩
  · intro c
    exact tileAt_eq_outside
  · intro c
    exact Grid.tileAt_eq_outside

end Level

end BlockMaze
